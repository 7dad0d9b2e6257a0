/-
# The values of secrets in a text

A reference to a secret between two literal texts gives way to the look-up of an alias, and that to the
value of the secret. The value is never read as part of a template, whatever it is. But what stands for an
escaped opening delimiter is put back over the whole text at the end, over the value as well: the
text is the value between the two texts exactly if these together do not hold the stand-in
(`renderRequest_insertion`).

Key definitions: `SecretRef.IsName`, `SecretRef.IsKey`, `SecretRef.written`, `Template.restore`.
Key theorems: `SecretRef.extract_written`, `Template.render_lookup`, `Rendering.renderText_written`,
`renderRequest_insertion`.
-/
import HttpResource.Header
import HttpResource.Proofs.Overrides
import Mathlib.Data.List.TakeWhile

namespace HttpResource

/-! ### References -/

/-- The look-up of the first alias, without its opening delimiter. -/
def Template.firstLookup : List Char := fieldText "secrets" "secret_0"

/-- A text without an opening ends at the first opening after it. -/
theorem Fragment.splitOpening_append {s : List Char} (h : splitOpening s = none) (rest : List Char) :
    splitOpening (s ++ (opening ++ rest)) = some (s, rest) := by
  induction s with
  | nil => rfl
  | cons c s ih =>
    have hnone : ¬opening <:+: c :: s := splitOpening_eq_none_iff.mp h
    have hfront : ¬opening <+: c :: (s ++ (opening ++ rest)) := by
      intro hprefix
      obtain ⟨rfl, hnext⟩ := opening_prefix_iff.mp hprefix
      cases s with
      | nil => exact absurd (Option.some.inj hnext) (by decide)
      | cons d s =>
        have hopening : opening <+: '$' :: d :: s := opening_prefix_iff.mpr ⟨rfl, hnext⟩
        exact hnone hopening.isInfix
    have hrest := ih (splitOpening_eq_none_iff.mpr fun hs => hnone (List.infix_cons hs))
    rw [List.cons_append, splitOpening_cons hfront, hrest]
    rfl

namespace SecretRef

/-- Characters of the keys of secrets. -/
def isKeyChar (c : Char) : Bool := Header.isPlain c || c = '_' || c = '.'

/-- A name of a secret: letters, digits and hyphens, no dots. -/
def IsName (name : String) : Prop := name ≠ "" ∧ name.toList.all Header.isPlain = true

/-- A key of a secret: what names have, and low lines and dots. -/
def IsKey (key : String) : Prop := key ≠ "" ∧ key.toList.all isKeyChar = true

instance (name : String) : Decidable (IsName name) := inferInstanceAs (Decidable (_ ∧ _))

instance (key : String) : Decidable (IsKey key) := inferInstanceAs (Decidable (_ ∧ _))

/-- The token of a reference. -/
def token (name key : String) : List Char := name.toList ++ '.' :: key.toList

/-- A reference to a key of a secret, as a template has it. -/
def written (name key : String) : String := "$\x7bsecret." ++ name ++ "." ++ key ++ "\x7d"

theorem toList_written (name key : String) :
    (written name key).toList = Fragment.opening ++ (marker ++ token name key ++ ['\x7d']) := by
  simp [written, token, marker, Fragment.opening]

theorem toList_between (before name key after : String) :
    (before ++ written name key ++ after).toList =
      before.toList ++ (Fragment.opening ++ (marker ++ token name key ++ '\x7d' :: after.toList)) := by
  rw [String.toList_append, String.toList_append, toList_written]
  simp

theorem isKeyChar_of_isPlain {c : Char} (h : Header.isPlain c = true) : isKeyChar c = true := by
  rw [isKeyChar, h, Bool.true_or, Bool.true_or]

/-- The characters of keys lie between the hyphen and the last small letter. -/
theorem toNat_of_isKeyChar {c : Char} (h : isKeyChar c = true) : 0x2d ≤ c.toNat ∧ c.toNat ≤ 0x7a := by
  simp only [isKeyChar, Header.isPlain, Bool.or_eq_true, decide_eq_true_eq] at h
  rcases h with ((h | rfl) | rfl) | rfl
  · have hranges : (decide (c.val ≥ 'A'.val ∧ c.val ≤ 'Z'.val) ||
        (decide (c.val ≥ 'a'.val) && decide (c.val ≤ 'z'.val)) || c.isDigit) = true := h
    have hval : c.val.toNat = c.toNat := rfl
    simp only [Bool.or_eq_true, Bool.and_eq_true, decide_eq_true_eq, ge_iff_le, UInt32.le_iff_toNat_le,
      hval, Char.reduceVal, UInt32.reduceToNat, Char.isDigit_iff_toNat, Char.reduceToNat] at hranges
    omega
  · decide
  · decide
  · decide

theorem isBlank_eq_false_of_isKeyChar {c : Char} (h : isKeyChar c = true) : Text.isBlank c = false := by
  obtain ⟨hlow, hhigh⟩ := toNat_of_isKeyChar h
  refine List.any_eq_false.mpr fun range hrange => ?_
  have hoff : ∀ range ∈ Text.blankRanges, range.2 < 0x2d ∨ 0x7a < range.1 := by decide
  have hsplit := hoff range hrange
  simp only [Bool.and_eq_true, decide_eq_true_eq, not_and]
  omega

section

variable {name key : String} (hname : IsName name) (hkey : IsKey key)

include hname hkey

theorem isKeyChar_of_mem_token {c : Char} (h : c ∈ token name key) : isKeyChar c = true := by
  rcases List.mem_append.mp h with h | h
  · exact isKeyChar_of_isPlain (List.all_eq_true.mp hname.2 c h)
  · rcases List.mem_cons.mp h with rfl | h
    · decide
    · exact List.all_eq_true.mp hkey.2 c h

theorem tokenOf?_token : tokenOf? (marker ++ token name key) = some (token name key, []) := by
  have hall : ∀ c ∈ token name key, (!(Text.isBlank c || c = '|')) = true := by
    intro c hc
    have hchar := isKeyChar_of_mem_token hname hkey hc
    have hpipe : c ≠ '|' := by
      rintro rfl
      exact absurd hchar (by decide)
    simp [isBlank_eq_false_of_isKeyChar hchar, hpipe]
  have hmarker : marker.isPrefixOf (marker ++ token name key) = true :=
    List.isPrefixOf_iff_prefix.mpr (List.prefix_append _ _)
  have htrimmed : Text.trimStart (marker ++ token name key) = marker ++ token name key := rfl
  unfold tokenOf?
  simp only [htrimmed]
  rw [if_pos hmarker, List.drop_left, List.span_eq_takeWhile_dropWhile,
    List.takeWhile_eq_self_iff.mpr hall, List.dropWhile_eq_nil_iff.mpr hall]

theorem parse?_token : parse? (token name key) = some ⟨none, name, key⟩ := by
  have hslash : '/' ∉ token name key := fun h =>
    absurd (isKeyChar_of_mem_token hname hkey h) (by decide)
  have hdot : '.' ∉ name.toList := fun h => absurd (List.all_eq_true.mp hname.2 _ h) (by decide)
  have hslash' : '/' ∉ name.toList := fun h => hslash (List.mem_append_left _ h)
  unfold parse?
  rw [Text.splitOnce_eq_none_iff.mpr hslash]
  simp only
  unfold nameAndKey? token
  rw [Text.splitOnce_append hdot]
  simp [hname.1, hkey.1, hslash', String.ofList_toList]

/-- A reference between two texts gives way to the look-up of its alias. -/
theorem extract_written {before after : String}
    (hbefore : Fragment.splitOpening before.toList = none)
    (hafter : Fragment.splitOpening after.toList = none) (hdollar : before.toList.getLast? ≠ some '$') :
    extract (before ++ written name key ++ after) =
      .ok (String.ofList
          (before.toList ++ (Template.plainOpening ++ (Template.firstLookup ++ after.toList))),
        [⟨none, name, key⟩]) := by
  have hbrace : '\x7d' ∉ marker ++ token name key := by
    intro h
    rcases List.mem_append.mp h with h | h
    · exact absurd h (by decide)
    · exact absurd (isKeyChar_of_mem_token hname hkey h) (by decide)
  have hsplit : Fragment.split (before ++ written name key ++ after).toList =
      [.expression before.toList (marker ++ token name key), .plain after.toList] := by
    rw [toList_between, ← Fragment.split_plain hafter]
    exact Fragment.split_expression (Fragment.splitOpening_append hbefore _) hbrace
  have hescaped : isEscaped before.toList = false := decide_eq_false hdollar
  have hrewritten : rewriteFragment [] (.expression before.toList (marker ++ token name key)) =
      .ok (before.toList ++ Fragment.opening ++ lookupText 0 [] ++ ['\x7d'], [⟨none, name, key⟩]) := by
    simp only [rewriteFragment, hescaped, tokenOf?_token hname hkey, parse?_token hname hkey]
    rfl
  have hplain : rewriteAll [⟨none, name, key⟩] [.plain after.toList] =
      .ok (after.toList, [⟨none, name, key⟩]) := by
    rw [← Fragment.split_plain hafter, rewriteAll_of_none, Fragment.flatMap_text_split]
    rw [Fragment.split_plain hafter]
    exact List.forall_mem_singleton.mpr rfl
  have hlookup : lookupText 0 [] ++ ['\x7d'] = Template.firstLookup := by decide +kernel
  refine extract_eq_ok_iff.mpr ?_
  rw [hsplit, String.toList_ofList]
  refine rewriteAll_cons_eq_ok_iff.mpr ⟨_, _, _, hrewritten, hplain, ?_⟩
  calc before.toList ++ Fragment.opening ++ lookupText 0 [] ++ ['\x7d'] ++ after.toList
      = before.toList ++ (Fragment.opening ++ ((lookupText 0 [] ++ ['\x7d']) ++ after.toList)) := by
        simp only [List.append_assoc]
    _ = before.toList ++ (Template.plainOpening ++ (Template.firstLookup ++ after.toList)) := by
        rw [hlookup]
        rfl

end

end SecretRef

/-! ### Templates -/

namespace Template

/-- A text with an opening delimiter is a template. -/
theorem isTemplate_of_expression {template : String} {before after : List Char}
    (h : template.toList = before ++ (plainOpening ++ after)) : isTemplate template = true := by
  refine isTemplate_eq_true_iff.mpr fun hliteral => hliteral.expression ?_
  rw [h]
  exact ⟨before, after, List.append_assoc ..⟩

/-- The text with plain opening delimiters for their stand-ins. -/
def restore (s : String) : String := String.ofList (Text.replace standIn plainOpening s.toList)

/-- A text is restored to itself exactly if it does not hold the stand-in. -/
theorem restore_eq_self_iff {s : String} : restore s = s ↔ ¬standIn <:+: s.toList := by
  have hshorter : plainOpening.length < standIn.length := by decide
  unfold restore
  rw [← String.toList_inj, String.toList_ofList]
  exact Text.replace_eq_self_iff hshorter

/-- No opening delimiter is escaped if no text before it ends in a dollar sign. -/
theorem replace_escapedOpening_append {s rest : List Char} (h : IsLiteral s)
    (hdollar : s.getLast? ≠ some '$') (hrest : IsLiteral rest) :
    Text.replace escapedOpening standIn (s ++ (plainOpening ++ rest)) = s ++ (plainOpening ++ rest) := by
  induction s with
  | nil =>
    have hfirst : ¬escapedOpening <+: '$' :: '\x7b' :: rest := by simp [escapedOpening]
    have hsecond : ¬escapedOpening <+: '\x7b' :: rest := by simp [escapedOpening]
    show Text.replace escapedOpening standIn ('$' :: '\x7b' :: rest) = '$' :: '\x7b' :: rest
    rw [Text.replace_cons hfirst, Text.replace_cons hsecond, replace_escapedOpening hrest]
  | cons c s ih =>
    -- An escape needs a dollar sign right before an opening delimiter, which only comes after the text.
    have hfront : ¬escapedOpening <+: c :: (s ++ (plainOpening ++ rest)) := by
      intro hprefix
      obtain ⟨rfl, htail⟩ := List.cons_prefix_cons.mp hprefix
      cases s with
      | nil => exact hdollar rfl
      | cons d s =>
        have hopening : plainOpening <+: d :: (s ++ (plainOpening ++ rest)) := htail
        obtain ⟨rfl, hnext⟩ := plainOpening_prefix_iff.mp hopening
        cases s with
        | nil => exact absurd (Option.some.inj hnext) (by decide)
        | cons e s =>
          have hheld : plainOpening <+: '$' :: e :: s := plainOpening_prefix_iff.mpr ⟨rfl, hnext⟩
          exact h.expression (List.infix_cons hheld.isInfix)
    have hs : s.getLast? ≠ some '$' := by
      cases s with
      | nil => nofun
      | cons d s => rwa [List.getLast?_cons_cons] at hdollar
    rw [List.cons_append, Text.replace_cons hfront, ih (h.mono (List.suffix_cons c s).isInfix) hs]

/-- **A value that is looked up comes between the two texts**, and what it has in common with the stand-in
of escapes is replaced with them. -/
theorem render_lookup [Engine] [Engine.Lawful] {before after : String} (h : Surrounds before.toList after.toList)
    (payload : Payload) (response : Response) (value : String) :
    render (context payload response (.ofList [("secret_0", value)]))
        (String.ofList (before.toList ++ (plainOpening ++ (firstLookup ++ after.toList)))) =
      .ok (restore (before ++ value ++ after)) := by
  have htemplate : isTemplate
      (String.ofList (before.toList ++ (plainOpening ++ (firstLookup ++ after.toList)))) = true :=
    isTemplate_of_expression String.toList_ofList
  have hrest : IsLiteral (firstLookup ++ after.toList) :=
    IsLiteral.append (by decide) h.literalAfter
  have hvalue : ((context payload response (.ofList [("secret_0", value)])).field? "secrets").bind
      (·.field? "secret_0") = some (.string value) := by
    unfold context
    split <;> rfl
  have hrendered := Engine.Lawful.render_field Filter.registered h (by decide +kernel) (by decide)
    (by decide +kernel) hvalue
  unfold render renderEscaped
  rw [if_pos htemplate, String.toList_ofList,
    replace_escapedOpening_append h.literalBefore h.dollar hrest, firstLookup, hrendered]
  show Except.ok _ = _
  rw [String.ofList_toList, String.ofList_toList, ← String.append_assoc]
  rfl

end Template

/-! ### Requests -/

section

variable {spec : Spec} {before after name key space value : String} {store : SecretStore}

/-- The only reference of a template has the first alias. -/
theorem Rendering.resolveAll_one (hspace : spec.secretNamespace = some space)
    (hvalue : store.read spec.waitTimeout ⟨space, name, key⟩ = .ok (some value)) :
    (resolveAll spec 0 [⟨none, name, key⟩]).resultIn store = .ok [("secret_0", value)] := by
  have hkey : (SecretRef.mk none name key).keyIn spec = some ⟨space, name, key⟩ := by
    unfold SecretRef.keyIn SecretRef.spaceIn
    rw [hspace]
    rfl
  have hresolve := resultIn_resolve store spec hkey
  rw [hvalue] at hresolve
  have halias : SecretRef.aliasOf 0 = "secret_0" := by decide +kernel
  unfold resolveAll
  rw [resultIn_both (resolve_reads spec _) (resolveAll_reads spec 1 []), halias]
  exact ⟨value, [], hresolve, rfl, rfl⟩

/-- A reference to a secret that the store has gives way to the value. -/
theorem Rendering.renderText_written [Template.Engine] [Template.Engine.Lawful] (status : Status)
    (htexts : Template.Surrounds before.toList after.toList) (hname : SecretRef.IsName name)
    (hkey : SecretRef.IsKey key) (hspace : spec.secretNamespace = some space)
    (hvalue : store.read spec.waitTimeout ⟨space, name, key⟩ = .ok (some value)) :
    (renderText spec status (before ++ SecretRef.written name key ++ after)).resultIn store =
      .ok (Template.restore (before ++ value ++ after)) := by
  have htemplate : Template.isTemplate (before ++ SecretRef.written name key ++ after) = true :=
    Template.isTemplate_of_expression (SecretRef.toList_between before name key after)
  have hextract := SecretRef.extract_written hname hkey
    (Fragment.splitOpening_eq_none_iff.mpr htexts.literalBefore.expression)
    (Fragment.splitOpening_eq_none_iff.mpr htexts.literalAfter.expression) htexts.dollar
  rw [resultIn_renderText spec status htemplate hextract, resolveAll_one hspace hvalue]
  show (Template.render _ _).mapError _ = _
  rw [Template.render_lookup htexts]
  rfl

/-- A body of which the text is known makes the request that there is without a body, with that text. -/
theorem renderRequest_body [Template.Engine] [Url.Reader] (status : Status) (action : Action) (m : Mapping)
    (w : World) {template text : String}
    (h : (Rendering.renderText spec status template).resultIn w.secrets = .ok text) :
    (renderRequest spec status action { m with body := some template } w).1 =
      (renderRequest spec status action { m with body := none } w).1.map
        fun q => { q with body := text } := by
  rw [renderRequest_result, renderRequest_result, Rendering.resultIn_request, Rendering.resultIn_request]
  simp only [Rendering.renderBody, h]
  show _ = (fun q : RequestDetails => { q with body := text }) <$> (_ : Except RenderError RequestDetails)
  -- No step after the body looks at it, so it can be set when the request is there.
  simp only [map_bind]
  rfl

/-- **The value of a secret is inserted, and what is read as a template is the text around it only.** The
request is the one that there is without a body, with a body in which the stand-ins of escapes are
restored. So the body is the value between the two texts exactly if these do not hold the stand-in. -/
theorem renderRequest_insertion [Template.Engine] [Template.Engine.Lawful] [Url.Reader] (status : Status)
    (action : Action) (m : Mapping) {w : World}
    (htexts : Template.Surrounds before.toList after.toList) (hname : SecretRef.IsName name)
    (hkey : SecretRef.IsKey key) (hspace : spec.secretNamespace = some space)
    (hvalue : w.secrets.read spec.waitTimeout ⟨space, name, key⟩ = .ok (some value)) :
    (renderRequest spec status action
        { m with body := some (before ++ SecretRef.written name key ++ after) } w).1 =
      (renderRequest spec status action { m with body := none } w).1.map
        (fun q => { q with body := Template.restore (before ++ value ++ after) }) ∧
    (Template.restore (before ++ value ++ after) = before ++ value ++ after ↔
      ¬Template.standIn <:+: (before ++ value ++ after).toList) :=
  ⟨renderRequest_body status action m w
      (Rendering.renderText_written status htexts hname hkey hspace hvalue),
    Template.restore_eq_self_iff⟩

end

/-- The specification of the login without default headers. -/
def plainSpec : Spec := { loginSpec with headers := .empty }

/-- A login that sends a password from a secret. -/
def passwordLogin : Mapping :=
  { login with body := some ("password=" ++ SecretRef.written "db" "pass" ++ "&realm=$1") }

/-- A world whose store has one secret. -/
def storing (password : String) : World where
  secrets := { values := [(⟨"team-a", "db", "pass"⟩, password)] }

/-- The request for the login with a body. -/
def passwordRequest (body : String) : RequestDetails :=
  { loginRequest with body, headers := login.headers }

/-- A password with what could be taken for a template, quotes, a line break and a control character. -/
def oddPassword : String := "$\x7b secret.db.user \x7d$$\x7b\x7b% if 1 %\x7d\x7b# \\ \x22'\r\n\x01"

theorem login_surrounds : Template.Surrounds "password=".toList "&realm=$1".toList :=
  ⟨by decide +kernel, by decide +kernel, by decide +kernel, by decide +kernel, by decide +kernel⟩

/-- The odd password is sent as it is. -/
theorem oddPassword_inserted :
    (renderRequest plainSpec {} .create passwordLogin (storing oddPassword)).1 =
      .ok (passwordRequest ("password=" ++ oddPassword ++ "&realm=$1")) := by
  have hname : SecretRef.IsName "db" := by decide +kernel
  have hkey : SecretRef.IsKey "pass" := by decide +kernel
  have hvalue : (storing oddPassword).secrets.read plainSpec.waitTimeout ⟨"team-a", "db", "pass"⟩ =
      .ok (some oddPassword) := by decide +kernel
  have hbare : (renderRequest plainSpec {} .create { login with body := none } (storing oddPassword)).1 =
      .ok (passwordRequest "") := Except.toOption_eq_some_iff.mp (by decide +kernel)
  obtain ⟨hrequest, hverbatim⟩ :=
    renderRequest_insertion {} .create login login_surrounds hname hkey rfl hvalue
  refine hrequest.trans ?_
  rw [hbare, hverbatim.mpr (by decide +kernel)]
  rfl

/-- A password that is the stand-in of an escaped opening delimiter. -/
def standInPassword : String := String.ofList Template.standIn

/-- It is sent as an opening delimiter. -/
theorem standInPassword_altered :
    Template.Surrounds "password=".toList "&realm=$1".toList ∧
      SecretRef.IsName "db" ∧ SecretRef.IsKey "pass" ∧ plainSpec.secretNamespace = some "team-a" ∧
      (storing standInPassword).secrets.read plainSpec.waitTimeout ⟨"team-a", "db", "pass"⟩ =
        .ok (some standInPassword) ∧
      (renderRequest plainSpec {} .create passwordLogin (storing standInPassword)).1 =
        .ok (passwordRequest "password=$\x7b&realm=$1") ∧
      "password=$\x7b&realm=$1" ≠ "password=" ++ standInPassword ++ "&realm=$1" := by
  have hname : SecretRef.IsName "db" := by decide +kernel
  have hkey : SecretRef.IsKey "pass" := by decide +kernel
  have hvalue : (storing standInPassword).secrets.read plainSpec.waitTimeout ⟨"team-a", "db", "pass"⟩ =
      .ok (some standInPassword) := by decide +kernel
  have hbare : (renderRequest plainSpec {} .create { login with body := none }
      (storing standInPassword)).1 = .ok (passwordRequest "") :=
    Except.toOption_eq_some_iff.mp (by decide +kernel)
  have htext := Rendering.renderText_written {} login_surrounds hname hkey rfl hvalue
  have hrestored : Template.restore ("password=" ++ standInPassword ++ "&realm=$1") =
      "password=$\x7b&realm=$1" := by decide +kernel
  refine ⟨login_surrounds, hname, hkey, rfl, hvalue, ?_, by decide +kernel⟩
  refine (renderRequest_body {} .create login (storing standInPassword) htext).trans ?_
  rw [hbare, hrestored]
  rfl

end HttpResource
