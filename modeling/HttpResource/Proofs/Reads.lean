/-
# The secrets that a rendering reads

A rendering asks for the secrets of the references in its templates, one after another, until something
fails. What has been asked for before is known to the session, and all else is read from the store; what
the session knows is just what the store has given. So the result of a step does not depend on what has
been read before it, and what a request reads are the keys that it asks for, each at its first place
(`renderRequest_reads`).

Key definitions: `SecretRef.keyIn`, `RenderSession.Faithful`, `Rendering.resultIn`, `Rendering.Reads`,
`Mapping.Uses`, `SecretReads`.
Key theorems: `Rendering.Reads.bind`, `Rendering.renderText_reads`, `Rendering.request_reads`,
`Rendering.resultIn_request`, `renderRequest_reads`.
-/
import HttpResource.Proofs.EscapeRoundTrip
import HttpResource.Proofs.Merge
import HttpResource.Proofs.References

namespace HttpResource

/-! ### Keys -/

/-- The key that a reference means, if the reference or the specification names a namespace. -/
def SecretRef.keyIn (spec : Spec) (r : SecretRef) : Option SecretKey :=
  (r.spaceIn spec).map fun space => ⟨space, r.name, r.key⟩

/-- What is asked for a template: the keys that its references mean, in order. -/
def Spec.asks (spec : Spec) (template : String) : List (Option SecretKey) :=
  (SecretRef.foundIn template).map (·.keyIn spec)

/-- A text without delimiters has no references. -/
theorem SecretRef.foundIn_of_isTemplate_eq_false {template : String}
    (h : Template.isTemplate template = false) : foundIn template = [] := by
  have hliteral := Template.isTemplate_eq_false_iff.mp h
  have hopening : Fragment.splitOpening template.toList = none :=
    Fragment.splitOpening_eq_none_iff.mpr hliteral.expression
  have hnone : ∀ f ∈ Fragment.split template.toList, f.reference? = none := by
    rw [Fragment.split_plain hopening]
    exact List.forall_mem_singleton.mpr rfl
  unfold foundIn
  rw [extract_of_none hnone]

/-- What is new in a list, each item at its first place: the new ones of the first part come first, and they
are known in the second part. -/
theorem eraseDups_removeAll_append {ks ls known known' : List SecretKey}
    (h : ∀ k, k ∈ known' ↔ k ∈ known ∨ k ∈ ks) :
    ((ks ++ ls).removeAll known).eraseDups =
      (ks.removeAll known).eraseDups ++ (ls.removeAll known').eraseDups := by
  have hrest : (ls.removeAll known).removeAll (ks.removeAll known) = ls.removeAll known' := by
    unfold List.removeAll
    rw [List.filter_filter]
    refine List.filter_congr fun k _ => ?_
    by_cases hknown : k ∈ known <;> by_cases hk : k ∈ ks <;> simp [h, hknown, hk]
  unfold List.removeAll at hrest ⊢
  rw [List.filter_append, List.eraseDups_append]
  exact congrArg (_ ++ List.eraseDups ·) hrest

/-! ### Sessions -/

namespace RenderSession

/-- The keys that the session knows. -/
def keys (s : RenderSession) : List SecretKey := s.resolved.map (·.1)

/-- The session has the store, and it knows of secrets what the store gives. -/
structure Faithful (store : SecretStore) (deadline : Duration) (s : RenderSession) : Prop where
  secrets : s.world.secrets = store
  resolved : ∀ e ∈ s.resolved, store.read deadline e.1 = .ok (some e.2)

/-- A session that starts knows nothing. -/
theorem faithful_start (w : World) (deadline : Duration) : Faithful w.secrets deadline ⟨w, []⟩ :=
  ⟨rfl, fun _ he => absurd he List.not_mem_nil⟩

section

variable {store : SecretStore} {deadline : Duration} {s : RenderSession} {k : SecretKey}

theorem mem_keys_of_lookup {value : String} (h : s.resolved.lookup k = some value) : k ∈ s.keys := by
  obtain ⟨before, after, heq, -⟩ := List.lookup_eq_some_iff.mp h
  unfold keys
  rw [heq, List.map_append]
  exact List.mem_append_right _ List.mem_cons_self

theorem notMem_keys_of_lookup (h : s.resolved.lookup k = none) : k ∉ s.keys := by
  intro hmem
  obtain ⟨e, he, rfl⟩ := List.mem_map.mp hmem
  have hne := List.lookup_eq_none_iff.mp h e he
  simp at hne

/-- For a key that the session knows it has what the store gives. -/
theorem Faithful.read_of_lookup (hs : s.Faithful store deadline) {value : String}
    (h : s.resolved.lookup k = some value) : store.read deadline k = .ok (some value) := by
  obtain ⟨before, after, heq, -⟩ := List.lookup_eq_some_iff.mp h
  exact hs.resolved (k, value) (heq ▸ List.mem_append_right _ List.mem_cons_self)

/-- A key that has been read joins those that are known. -/
theorem Faithful.remember (hs : s.Faithful store deadline) {value : String}
    (h : store.read deadline k = .ok (some value)) :
    Faithful store deadline ⟨s.world.record (.readSecret k), (k, value) :: s.resolved⟩ :=
  ⟨hs.secrets, List.forall_mem_cons.mpr ⟨h, hs.resolved⟩⟩

end

end RenderSession

namespace Rendering

variable {α β : Type} {store : SecretStore} {deadline : Duration}

/-- What a step gives when nothing has been read before it. -/
def resultIn (store : SecretStore) (x : Rendering α) : Except RenderError α :=
  (x.run ⟨{ secrets := store }, []⟩).1

/-- In a session a step gives what it always gives. It reads those of the keys that the session does not
know, each once, and if it succeeds the session knows them from then on. -/
structure Asks (store : SecretStore) (deadline : Duration) (ks : List SecretKey) (x : Rendering α)
    (s : RenderSession) : Prop where
  result : (x.run s).1 = x.resultIn store
  world : (x.run s).2.world =
    s.world.recordAll ((ks.removeAll s.keys).eraseDups.map .readSecret)
  faithful : ∀ a, x.resultIn store = .ok a → (x.run s).2.Faithful store deadline
  known : ∀ a, x.resultIn store = .ok a → ∀ k, k ∈ (x.run s).2.keys ↔ k ∈ s.keys ∨ k ∈ ks

/-- A step that fails leaves nothing to be known. -/
theorem Asks.of_error {ks : List SecretKey} {x : Rendering α} {s s' : RenderSession} {e : RenderError}
    (hresult : x.resultIn store = .error e) (hrun : x.run s = (.error e, s'))
    (hworld : s'.world = s.world.recordAll ((ks.removeAll s.keys).eraseDups.map .readSecret)) :
    Asks store deadline ks x s := by
  refine ⟨?_, ?_, fun a ha => ?_, fun a ha => ?_⟩
  · rw [hrun, hresult]
  · rw [hrun, hworld]
  · rw [hresult] at ha
    cases ha
  · rw [hresult] at ha
    cases ha

/-- A step asks for keys in order, up to where it fails. No key is meant by a reference without a namespace,
so the step does not get past one. -/
def Reads (store : SecretStore) (deadline : Duration) (asked : List (Option SecretKey))
    (x : Rendering α) : Prop :=
  ∃ ks : List SecretKey, ks.map some <+: asked ∧
    (∀ a, x.resultIn store = .ok a → ks.map some = asked) ∧
      ∀ s, s.Faithful store deadline → Asks store deadline ks x s

namespace Reads

theorem pure (a : α) : Reads store deadline [] (Pure.pure a : Rendering α) := by
  refine ⟨[], List.prefix_rfl, fun _ _ => rfl, fun s hs => ⟨rfl, ?_, fun _ _ => hs, fun _ _ k => ?_⟩⟩
  · exact (World.recordAll_nil s.world).symm
  · exact (or_iff_left List.not_mem_nil).symm

theorem throw (e : RenderError) (asked : List (Option SecretKey)) :
    Reads store deadline asked (throw e : Rendering α) :=
  ⟨[], List.nil_prefix, nofun, fun s _ => .of_error rfl rfl (World.recordAll_nil s.world).symm⟩

/-- What a step gives does not depend on what has been read before it. -/
theorem result {asked : List (Option SecretKey)} {x : Rendering α} (hx : Reads store deadline asked x)
    {s : RenderSession} (hs : s.Faithful store deadline) : (x.run s).1 = x.resultIn store := by
  obtain ⟨_, -, -, hasks⟩ := hx
  exact (hasks s hs).result

end Reads

section

variable {asked more : List (Option SecretKey)} {x : Rendering α} {f : α → Rendering β}

theorem run_bind_of_error {s : RenderSession} {e : RenderError} (h : (x.run s).1 = .error e) :
    (x >>= f).run s = (.error e, (x.run s).2) := by
  rw [run_bind]
  rcases hrun : x.run s with ⟨r, s'⟩
  rw [hrun] at h
  obtain rfl : r = .error e := h
  rfl

theorem run_bind_of_ok {s : RenderSession} {a : α} (h : (x.run s).1 = .ok a) :
    (x >>= f).run s = (f a).run (x.run s).2 := by
  rw [run_bind]
  rcases hrun : x.run s with ⟨r, s'⟩
  rw [hrun] at h
  obtain rfl : r = .ok a := h
  rfl

/-- The steps of a sequence give one after another what each gives by itself. -/
theorem resultIn_bind (hx : Reads store deadline asked x) (hf : ∀ a, Reads store deadline more (f a)) :
    (x >>= f).resultIn store = x.resultIn store >>= fun a => (f a).resultIn store := by
  cases hresult : x.resultIn store with
  | error e => exact congrArg Prod.fst (run_bind_of_error hresult)
  | ok a =>
    obtain ⟨_, -, -, hasks⟩ := hx
    have hstart := hasks _ (RenderSession.faithful_start { secrets := store } deadline)
    exact (congrArg Prod.fst (run_bind_of_ok hresult)).trans ((hf a).result (hstart.faithful a hresult))

/-- A sequence asks for what its steps ask for. -/
theorem Reads.bind (hx : Reads store deadline asked x) (hf : ∀ a, Reads store deadline more (f a)) :
    Reads store deadline (asked ++ more) (x >>= f) := by
  have hbind := resultIn_bind hx hf
  obtain ⟨ks, hprefix, hall, hasks⟩ := hx
  cases hresult : x.resultIn store with
  | error e =>
    -- The second step is not reached, so what has been asked for is a beginning of it all.
    have hfails : (x >>= f).resultIn store = .error e := by
      rw [hbind, hresult]
      rfl
    refine ⟨ks, hprefix.trans (List.prefix_append _ _), fun b hb => ?_, fun s hs => ?_⟩
    · rw [hfails] at hb
      cases hb
    · have hrun := run_bind_of_error (f := f) ((hasks s hs).result.trans hresult)
      exact .of_error hfails hrun (hasks s hs).world
  | ok a =>
    -- All that the first step asks for is known when the second one starts.
    rw [hresult] at hbind
    obtain ⟨ls, hprefix', hall', hasks'⟩ := hf a
    obtain rfl := hall a hresult
    refine ⟨ks ++ ls, ?_, fun b hb => ?_, fun s hs => ?_⟩
    · rw [List.map_append]
      exact List.prefix_append_right_inj _ |>.mpr hprefix'
    · rw [List.map_append, hall' b (hbind.symm.trans hb)]
    · have hfirst := hasks s hs
      have hsecond := hasks' _ (hfirst.faithful a hresult)
      have hknown := hfirst.known a hresult
      have hrun := run_bind_of_ok (f := f) (hfirst.result.trans hresult)
      refine ⟨?_, ?_, fun b hb => ?_, fun b hb k => ?_⟩
      · rw [hrun, hbind]
        exact hsecond.result
      · rw [hrun, hsecond.world, hfirst.world, World.recordAll_recordAll,
          eraseDups_removeAll_append hknown, List.map_append]
      · rw [hrun]
        exact hsecond.faithful b (hbind.symm.trans hb)
      · rw [hrun, hsecond.known b (hbind.symm.trans hb), hknown, List.mem_append, or_assoc]

theorem Reads.bind_pure (hx : Reads store deadline asked x) (g : α → β) :
    Reads store deadline asked (x >>= fun a => Pure.pure (g a)) := by
  have hpure : ∀ a, Reads store deadline [] (Pure.pure (g a) : Rendering β) := fun a => .pure (g a)
  rw [← List.append_nil asked]
  exact hx.bind hpure

/-- What comes of two steps together. -/
theorem resultIn_both {γ : Type} {y : Rendering β} (hx : Reads store deadline asked x)
    (hy : Reads store deadline more y) (g : α → β → γ) {c : γ} :
    (x >>= fun a => y >>= fun b => pure (g a b)).resultIn store = .ok c ↔
      ∃ a b, x.resultIn store = .ok a ∧ y.resultIn store = .ok b ∧ c = g a b := by
  have hpure : ∀ a b, Reads store deadline [] (pure (g a b) : Rendering γ) := fun a b => .pure (g a b)
  rw [resultIn_bind hx fun a => hy.bind_pure (g a), Except.bind_eq_ok_iff]
  refine exists_congr fun a => ?_
  rw [resultIn_bind hy (hpure a), Except.bind_eq_ok_iff, ← exists_and_left]
  refine exists_congr fun b => and_congr_right fun _ => and_congr_right fun _ => ?_
  exact (Except.ok.injEq (g a b) c).to_iff.trans eq_comm

end

/-! ### Secrets -/

/-- Without a namespace nothing is looked up. -/
theorem resolve_of_nameless (spec : Spec) {r : SecretRef} (h : r.keyIn spec = none) :
    resolve spec r = throw (.noNamespace r.name r.key) := by
  have hspace : r.inNamespace.or spec.secretNamespace = none := Option.map_eq_none_iff.mp h
  unfold resolve
  rw [hspace]

theorem run_recalled (k : SecretKey) (s : RenderSession) :
    (recalled k).run s = (.ok (s.resolved.lookup k), s) := rfl

theorem run_act (x : Act α) (s : RenderSession) :
    (act x).run s = (.ok (x s.world).1, { s with world := (x s.world).2 }) := rfl

/-- The value of a key is recalled, or else it is read. -/
theorem run_resolve (spec : Spec) {r : SecretRef} {k : SecretKey} (h : r.keyIn spec = some k)
    (s : RenderSession) :
    (resolve spec r).run s =
      match s.resolved.lookup k with
      | some value => (.ok value, s)
      | none =>
        let world := s.world.record (.readSecret k)
        match s.world.secrets.read spec.waitTimeout k with
        | .error e => (.error (.secretLookup e), { s with world })
        | .ok none => (.error (.missingSecret k), { s with world })
        | .ok (some value) => (.ok value, ⟨world, (k, value) :: s.resolved⟩) := by
  obtain ⟨space, hspace, rfl⟩ := Option.map_eq_some_iff.mp h
  have hspace' : r.inNamespace.or spec.secretNamespace = some space := hspace
  unfold resolve
  rw [hspace']
  simp only
  rw [run_bind, run_recalled]
  cases s.resolved.lookup ⟨space, r.name, r.key⟩ with
  | some value => rfl
  | none =>
    simp only
    unfold readSecret
    rw [run_bind, run_act]
    simp only [World.readSecret]
    rcases s.world.secrets.read spec.waitTimeout ⟨space, r.name, r.key⟩ with e | _ | value
    · rfl
    · rfl
    · rfl

/-- What a reference gives where nothing is known: what the store gives for its key. -/
theorem resultIn_resolve (store : SecretStore) (spec : Spec) {r : SecretRef} {k : SecretKey}
    (h : r.keyIn spec = some k) :
    (resolve spec r).resultIn store =
      match store.read spec.waitTimeout k with
      | .error e => .error (.secretLookup e)
      | .ok none => .error (.missingSecret k)
      | .ok (some value) => .ok value := by
  unfold resultIn
  rw [run_resolve spec h]
  simp only [List.lookup_nil]
  rcases store.read spec.waitTimeout k with e | _ | value
  · rfl
  · rfl
  · rfl

theorem resolve_reads (spec : Spec) (r : SecretRef) :
    Reads store spec.waitTimeout [r.keyIn spec] (resolve spec r) := by
  cases hkey : r.keyIn spec with
  | none =>
    rw [resolve_of_nameless spec hkey]
    exact .throw _ _
  | some k =>
    refine ⟨[k], List.prefix_rfl, fun _ _ => rfl, fun s hs => ?_⟩
    have hresult := resultIn_resolve store spec hkey
    have hrun := run_resolve spec hkey s
    rw [hs.secrets] at hrun
    cases hlookup : s.resolved.lookup k with
    | some value =>
      have hmem := RenderSession.mem_keys_of_lookup hlookup
      have hnew : [k].removeAll s.keys = [] := by simp [List.removeAll, hmem]
      rw [hs.read_of_lookup hlookup] at hresult
      rw [hlookup] at hrun
      refine ⟨?_, ?_, fun _ _ => ?_, fun _ _ l => ?_⟩
      · rw [hrun, hresult]
      · rw [hrun, hnew]
        exact (World.recordAll_nil s.world).symm
      · rw [hrun]
        exact hs
      · rw [hrun, List.mem_singleton]
        exact ⟨.inl, fun hl => hl.elim id fun hl => hl ▸ hmem⟩
    | none =>
      have hnotMem := RenderSession.notMem_keys_of_lookup hlookup
      have hnew : [k].removeAll s.keys = [k] := by simp [List.removeAll, hnotMem]
      rw [hlookup] at hrun
      rcases hread : store.read spec.waitTimeout k with e | _ | value
      · rw [hread] at hrun hresult
        exact .of_error hresult hrun (by rw [hnew]; rfl)
      · rw [hread] at hrun hresult
        exact .of_error hresult hrun (by rw [hnew]; rfl)
      · rw [hread] at hrun hresult
        refine ⟨?_, ?_, fun _ _ => ?_, fun _ _ l => ?_⟩
        · rw [hrun, hresult]
        · rw [hrun, hnew]
          rfl
        · rw [hrun]
          exact hs.remember hread
        · rw [hrun, List.mem_singleton]
          exact List.mem_cons.trans or_comm

theorem resolveAll_reads (spec : Spec) : ∀ (index : Nat) (refs : List SecretRef),
    Reads store spec.waitTimeout (refs.map (·.keyIn spec)) (resolveAll spec index refs)
  | _, [] => .pure _
  | index, r :: rest =>
    (resolve_reads spec r).bind fun _ => (resolveAll_reads spec (index + 1) rest).bind_pure _

/-! ### Templates -/

section

variable [Template.Engine] (spec : Spec) (status : Status)

theorem renderText_reads (template : String) :
    Reads store spec.waitTimeout (spec.asks template) (renderText spec status template) := by
  unfold renderText
  split
  · rename_i hplain
    have hliteral : Template.isTemplate template = false := by simpa using hplain
    rw [Spec.asks, SecretRef.foundIn_of_isTemplate_eq_false hliteral]
    exact .pure _
  · cases hextract : SecretRef.extract template with
    | error token => exact .throw _ _
    | ok result =>
      obtain ⟨rewritten, refs⟩ := result
      have hasks : spec.asks template = refs.map (·.keyIn spec) ++ [] := by
        rw [Spec.asks, SecretRef.foundIn, hextract, List.append_nil]
      rw [hasks]
      refine (resolveAll_reads spec 0 refs).bind fun secrets => ?_
      simp only
      split
      · exact .pure _
      · exact .throw _ _

/-- A template gives the text of its rewriting, where the aliases stand for what its references give. -/
theorem resultIn_renderText {template rewritten : String} {refs : List SecretRef}
    (htemplate : Template.isTemplate template = true)
    (h : SecretRef.extract template = .ok (rewritten, refs)) :
    (renderText spec status template).resultIn store =
      (resolveAll spec 0 refs).resultIn store >>= fun secrets =>
        (Template.render (Template.context spec.payload status.cache.response (.ofList secrets))
          rewritten).mapError .template := by
  unfold renderText
  rw [htemplate]
  simp only [Bool.not_true, Bool.false_eq_true, if_false, h]
  refine (@resultIn_bind _ _ store _ _ [] _ _ (resolveAll_reads spec 0 refs) fun secrets => ?_).trans ?_
  · split
    · exact .pure _
    · exact .throw _ _
  · refine congrArg _ (funext fun secrets => ?_)
    cases Template.render (Template.context spec.payload status.cache.response (.ofList secrets))
      rewritten <;> rfl

theorem renderEach_reads : ∀ templates : List String,
    Reads store spec.waitTimeout (templates.flatMap spec.asks) (renderEach spec status templates)
  | [] => .pure _
  | template :: rest =>
    (renderText_reads spec status template).bind fun _ => (renderEach_reads rest).bind_pure _

theorem renderHeaders_reads : ∀ headers : List (String × List String),
    Reads store spec.waitTimeout ((headers.flatMap (·.2)).flatMap spec.asks)
      (renderHeaders spec status headers)
  | [] => .pure _
  | (name, templates) :: rest => by
    rw [List.flatMap_cons, List.flatMap_append]
    exact (renderEach_reads spec status templates).bind fun _ => (renderHeaders_reads rest).bind_pure _

/-- The text of a body, which is empty where there is no template for it. -/
def renderBody (body : Option String) : Rendering String :=
  match body with
  | some template => renderText spec status template
  | none => Pure.pure ""

theorem renderBody_reads (body : Option String) :
    Reads store spec.waitTimeout (body.toList.flatMap spec.asks) (renderBody spec status body) := by
  cases body with
  | none => exact .pure _
  | some template =>
    rw [Option.toList_some, List.flatMap_singleton]
    exact renderText_reads spec status template

variable [Url.Reader] (action : Action) (m : Mapping)

/-- A request from its address on. -/
def requestTo (url : String) : Rendering RequestDetails :=
  match checkUrl url with
  | .error e => throw e
  | .ok () => do
    let body ← renderBody spec status m.body
    let headers ← renderHeaders spec status (spec.headers.union m.headers).entries
    return {
      action := some action, method := m.method.map Char.toUpper, url, body
      headers := .ofList headers }

theorem request_eq :
    request spec status action m = renderText spec status m.url >>= requestTo spec status action m := by
  unfold request requestTo renderBody
  refine congrArg _ (funext fun url => ?_)
  cases checkUrl url with
  | error e => rfl
  | ok _ => cases m.body <;> rfl

theorem requestTo_reads (url : String) :
    Reads store spec.waitTimeout
      (m.body.toList.flatMap spec.asks ++
        (Headers.templates (spec.headers.union m.headers)).flatMap spec.asks)
      (requestTo spec status action m url) := by
  unfold requestTo
  cases checkUrl url with
  | error e => exact .throw _ _
  | ok _ =>
    exact (renderBody_reads spec status m.body).bind fun _ =>
      (renderHeaders_reads spec status _).bind_pure _

/-- A request asks for what its templates ask for. -/
theorem request_reads :
    Reads store spec.waitTimeout ((m.templatesWith spec.headers).flatMap spec.asks)
      (request spec status action m) := by
  rw [request_eq, Mapping.templatesWith, List.flatMap_cons, List.flatMap_append]
  exact (renderText_reads spec status m.url).bind (requestTo_reads spec status action m)

/-- A request by the parts that it is made of, each of them as it is by itself. -/
theorem resultIn_request :
    (request spec status action m).resultIn store = do
      let url ← (renderText spec status m.url).resultIn store
      checkUrl url
      let body ← (renderBody spec status m.body).resultIn store
      let headers ← (renderHeaders spec status (spec.headers.union m.headers).entries).resultIn store
      return {
        action := some action, method := m.method.map Char.toUpper, url, body
        headers := .ofList headers } := by
  rw [request_eq,
    resultIn_bind (renderText_reads spec status m.url) (requestTo_reads spec status action m)]
  refine congrArg _ (funext fun url => ?_)
  unfold requestTo
  cases checkUrl url with
  | error e => rfl
  | ok _ =>
    have hheaders : Reads store spec.waitTimeout _
        (renderHeaders spec status (spec.headers.union m.headers).entries) :=
      renderHeaders_reads spec status _
    simp only
    rw [resultIn_bind (renderBody_reads spec status m.body) fun _ => hheaders.bind_pure _]
    refine congrArg _ (funext fun body => ?_)
    exact resultIn_bind hheaders fun _ => .pure _

end

end Rendering

/-- The request that is rendered in a world depends on its secrets only. -/
theorem renderRequest_result [Template.Engine] [Url.Reader] (spec : Spec) (status : Status)
    (action : Action) (m : Mapping) (w : World) :
    (renderRequest spec status action m w).1 =
      (Rendering.request spec status action m).resultIn w.secrets :=
  (Rendering.request_reads spec status action m).result (RenderSession.faithful_start w _)

/-! ### Requests -/

namespace Mapping

variable {defaults : Headers} {m : Mapping} {template : String}

/-- The templates of a header: those that the mapping has for it, or else the default ones. -/
def header? (defaults : Headers) (m : Mapping) (name : String) : Option (List String) :=
  (m.headers.get? name).or (defaults.get? name)

/-- A template that a request is made of: that of the address, that of the body, or one of a header. -/
inductive Uses (defaults : Headers) (m : Mapping) : String → Prop
  | url : Uses defaults m m.url
  | body {template : String} (h : m.body = some template) : Uses defaults m template
  | header {name template : String} {templates : List String}
    (h : m.header? defaults name = some templates) (ht : template ∈ templates) : Uses defaults m template

theorem mem_templates_union_iff :
    template ∈ Headers.templates (defaults.union m.headers) ↔
      ∃ name templates, m.header? defaults name = some templates ∧ template ∈ templates := by
  unfold Headers.templates header?
  rw [List.mem_flatMap]
  constructor
  · rintro ⟨⟨name, templates⟩, he, ht⟩
    exact ⟨name, templates, (Table.get?_union ..).symm.trans (Table.mem_entries_iff.mp he), ht⟩
  · rintro ⟨name, templates, h, ht⟩
    exact ⟨(name, templates), Table.mem_entries_iff.mpr ((Table.get?_union ..).trans h), ht⟩

theorem mem_templatesWith_iff : template ∈ m.templatesWith defaults ↔ m.Uses defaults template := by
  unfold templatesWith
  rw [List.mem_cons, List.mem_append, Option.mem_toList, mem_templates_union_iff]
  constructor
  · rintro (rfl | h | ⟨name, templates, h, ht⟩)
    · exact .url
    · exact .body h
    · exact .header h ht
  · intro h
    cases h with
    | url => exact .inl rfl
    | body h => exact .inr (.inl h)
    | header h ht => exact .inr (.inr ⟨_, _, h, ht⟩)

end Mapping

theorem nodup_eraseDups (ks : List SecretKey) : ks.eraseDups.Nodup := by
  induction ks using List.reverseRecOn with
  | nil => exact List.nodup_nil
  | append_singleton ks k ih =>
    rw [List.eraseDups_append]
    by_cases hk : k ∈ ks
    · have hnone : [k].removeAll ks = [] := by simp [List.removeAll, hk]
      rwa [hnone, List.eraseDups_nil, List.append_nil]
    · have hone : [k].removeAll ks = [k] := by simp [List.removeAll, hk]
      rw [hone]
      refine ih.append (List.nodup_singleton k) (List.disjoint_singleton.mpr ?_)
      rwa [List.mem_eraseDups]

/-- How the rendering of a request in a world goes about the secrets: `keys` is what it reads, `result` what
comes of it, and `after` the world then. -/
structure SecretReads (spec : Spec) (m : Mapping) (w : World) (keys : List SecretKey)
    (result : Except RenderError RequestDetails) (after : World) : Prop where
  /-- The reads are all that is done; nothing is written. -/
  world : after = w.recordAll (keys.map .readSecret)
  /-- No key is read twice. -/
  once : keys.Nodup
  /-- What is read is the key of a reference that a template of the request has. -/
  sought : ∀ k ∈ keys, ∃ template, m.Uses spec.headers template ∧
    ∃ r ∈ SecretRef.foundIn template, r.keyIn spec = some k
  /-- A reference without a namespace is refused, and the session stays as it was. -/
  nameless : ∀ r : SecretRef, r.inNamespace = none → spec.secretNamespace = none →
    ∀ s, (Rendering.resolve spec r).run s = (.error (.noNamespace r.name r.key), s)
  /-- A request is made only if all references of its templates have been read and had values. -/
  complete : ∀ q, result = .ok q → ∀ template, m.Uses spec.headers template →
    ∀ r ∈ SecretRef.foundIn template, ∃ k value, r.keyIn spec = some k ∧ k ∈ keys ∧
      w.secrets.read spec.waitTimeout k = .ok (some value)

/-- **What a rendering reads of the secrets.** It reads keys of references in the templates that the request
is made of, each of them once, and it does nothing else; if there is a request, it has read all of them. -/
theorem renderRequest_reads [Template.Engine] [Url.Reader] (spec : Spec) (status : Status)
    (action : Action) (m : Mapping) (w : World) :
    ∃ keys, SecretReads spec m w keys (renderRequest spec status action m w).1
      (renderRequest spec status action m w).2 := by
  have hreads : Rendering.Reads w.secrets spec.waitTimeout _ (Rendering.request spec status action m) :=
    Rendering.request_reads spec status action m
  obtain ⟨ks, hprefix, hall, hasks⟩ := hreads
  have hrun := hasks ⟨w, []⟩ (RenderSession.faithful_start w _)
  have hkeys : ks.removeAll (RenderSession.keys ⟨w, []⟩) = ks := by
    simp [List.removeAll, RenderSession.keys]
  refine ⟨ks.eraseDups, ?_, nodup_eraseDups ks, fun k hk => ?_, fun r hr hspec s => ?_,
    fun q hq template huses r hr => ?_⟩
  · have hworld := hrun.world
    rwa [hkeys] at hworld
  · have hasked := hprefix.subset (List.mem_map_of_mem (List.mem_eraseDups.mp hk))
    obtain ⟨template, htemplate, hk⟩ := List.mem_flatMap.mp hasked
    obtain ⟨r, hr, hkey⟩ := List.mem_map.mp hk
    exact ⟨template, Mapping.mem_templatesWith_iff.mp htemplate, r, hr, hkey⟩
  · have hkey : r.keyIn spec = none := by
      unfold SecretRef.keyIn SecretRef.spaceIn
      rw [hr, hspec]
      rfl
    rw [Rendering.resolve_of_nameless spec hkey]
    rfl
  · have hresult := hrun.result.symm.trans hq
    have hasked : r.keyIn spec ∈ ks.map some := by
      rw [hall q hresult]
      exact List.mem_flatMap.mpr
        ⟨template, Mapping.mem_templatesWith_iff.mpr huses, List.mem_map_of_mem hr⟩
    obtain ⟨k, hk, hkey⟩ := List.mem_map.mp hasked
    have hknown := (hrun.known q hresult k).mpr (.inr hk)
    obtain ⟨e, he, rfl⟩ := List.mem_map.mp hknown
    exact ⟨e.1, e.2, hkey.symm, List.mem_eraseDups.mpr hk, (hrun.faithful q hresult).resolved e he⟩

end HttpResource
