/-
# What is written is read back

Every record of the wire is read back as it was written, from its JSON value and from its text. That holds
of the declarations of both kinds of resources and of the status with all it consists of, and it holds
still when unknown fields have been added at any depth and when fields have been put in other orders
(`Wire.all_faithful`). So the status that one pass asks the cluster to keep is the one that a later pass
starts from.

Key definitions: `Wire.Faithful`, `Api.Persists`.
Key theorems: `Wire.Lawful.faithful`, `Resource.ofJson?_withStatus`, `Api.patchStatus_persists`,
`Wire.all_faithful`.
-/
import HttpResource.Proofs.Lawful
import HttpResource.Proofs.Session

namespace HttpResource

/-! ### Declarations -/

instance : Wire.Lawful Action .plain where
  ne_null _ := nofun
  reads_back a := by cases a <;> rfl
  reads_alike h := nomatch h

instance : Wire.Shallow Action 0 where
  printable a := .string a.name

def Mapping.form : Form :=
  .record [("action", .plain), ("method", .plain), ("url", .plain), ("body", .plain),
    ("headers", .table (.list .plain))]

instance : Wire.Lawful Mapping Mapping.form where
  ne_null _ := nofun
  reads_back a := by
    refine reads_record Mapping.fieldNames rfl (by decide) fun fs h => ?_
    simp only [List.forall_mem_cons] at h
    obtain ⟨haction, hmethod, hurl, hbody, hheaders, -⟩ := h
    rw [field?_present haction, required?_string hmethod, required?_string hurl,
      field?_present hbody, field?_presentUnless hheaders Table.eq_empty]
    rfl
  reads_alike h := by
    refine reads_record_alike Mapping.fieldNames rfl (fun fs gs h => ?_) h
    rw [field?_option_alike (h "action" _ rfl), required?_alike (h "method" _ rfl),
      required?_alike (h "url" _ rfl), field?_option_alike (h "body" _ rfl),
      field?_alike (h "headers" _ rfl)]

instance : Wire.Shallow Mapping 3 where
  printable a := by
    refine Json.printable_ofPresent ?_
    simp only [List.forall_mem_cons]
    exact ⟨.present _ (by decide), .string _, .string _, .present _ (by decide),
      .presentUnless _ _ (by decide), nofun⟩

def Payload.form : Form :=
  .record [("baseUrl", .plain), ("body", .plain)]

instance : Wire.Lawful Payload Payload.form where
  ne_null _ := nofun
  reads_back a := by
    refine reads_record Payload.fieldNames rfl (by decide) fun fs h => ?_
    simp only [List.forall_mem_cons] at h
    obtain ⟨hbase, hbody, -⟩ := h
    rw [field?_present hbase, field?_present hbody]
    rfl
  reads_alike h := by
    refine reads_record_alike Payload.fieldNames rfl (fun fs gs h => ?_) h
    rw [field?_option_alike (h "baseUrl" _ rfl), field?_option_alike (h "body" _ rfl)]

instance : Wire.Shallow Payload 1 where
  printable a := by
    refine Json.printable_ofPresent ?_
    simp only [List.forall_mem_cons]
    exact ⟨.present _ (by decide), .present _ (by decide), nofun⟩

def CheckDeclaration.form : Form :=
  .record [("type", .plain), ("logic", .plain)]

instance : Wire.Lawful CheckDeclaration CheckDeclaration.form where
  ne_null _ := nofun
  reads_back a := by
    refine reads_record CheckDeclaration.fieldNames rfl (by decide) fun fs h => ?_
    simp only [List.forall_mem_cons] at h
    obtain ⟨htype, hlogic, -⟩ := h
    rw [field?_string htype, field?_present hlogic]
    rfl
  reads_alike h := by
    refine reads_record_alike CheckDeclaration.fieldNames rfl (fun fs gs h => ?_) h
    rw [field?_alike (h "type" _ rfl), field?_option_alike (h "logic" _ rfl)]

instance : Wire.Shallow CheckDeclaration 1 where
  printable a := by
    refine Json.printable_ofPresent ?_
    simp only [List.forall_mem_cons]
    exact ⟨.string _, .present _ (by decide), nofun⟩

def SecretTarget.form : Form :=
  .record [("name", .plain), ("namespace", .plain)]

instance : Wire.Lawful SecretTarget SecretTarget.form where
  ne_null _ := nofun
  reads_back a := by
    refine reads_record SecretTarget.fieldNames rfl (by decide) fun fs h => ?_
    simp only [List.forall_mem_cons] at h
    obtain ⟨hname, hspace, -⟩ := h
    rw [required?_string hname, field?_present hspace]
    rfl
  reads_alike h := by
    refine reads_record_alike SecretTarget.fieldNames rfl (fun fs gs h => ?_) h
    rw [required?_alike (h "name" _ rfl), field?_option_alike (h "namespace" _ rfl)]

instance : Wire.Shallow SecretTarget 1 where
  printable a := by
    refine Json.printable_ofPresent ?_
    simp only [List.forall_mem_cons]
    exact ⟨.string _, .present _ (by decide), nofun⟩

def InjectionDeclaration.form : Form :=
  .record [("secretRef", SecretTarget.form), ("secretKey", .plain), ("responsePath", .plain)]

instance : Wire.Lawful InjectionDeclaration InjectionDeclaration.form where
  ne_null _ := nofun
  reads_back a := by
    refine reads_full_record InjectionDeclaration.fieldNames rfl (by decide) fun fs h => ?_
    simp only [List.forall_mem_cons] at h
    obtain ⟨htarget, hkey, hpath, -⟩ := h
    rw [required?_written htarget, required?_string hkey, required?_string hpath]
    rfl
  reads_alike h := by
    refine reads_record_alike InjectionDeclaration.fieldNames rfl (fun fs gs h => ?_) h
    rw [required?_alike (h "secretRef" _ rfl), required?_alike (h "secretKey" _ rfl),
      required?_alike (h "responsePath" _ rfl)]

instance : Wire.Shallow InjectionDeclaration 2 where
  printable a := by
    refine Json.printable_ofFields ?_
    simp only [List.forall_mem_cons]
    exact ⟨.written _ (by decide), .string _, .string _, nofun⟩

def ManagedDeclaration.form : Form :=
  .record [("mappings", .list Mapping.form), ("payload", Payload.form),
    ("headers", .table (.list .plain)), ("expectedResponseCheck", CheckDeclaration.form),
    ("isRemovedCheck", CheckDeclaration.form),
    ("secretInjectionConfigs", .list InjectionDeclaration.form), ("waitTimeout", .plain),
    ("insecureSkipTLSVerify", .plain), ("rollbackRetriesLimit", .plain), ("nextReconcile", .plain)]

instance : Wire.Lawful ManagedDeclaration ManagedDeclaration.form where
  ne_null _ := nofun
  reads_back a := by
    refine reads_record ManagedDeclaration.fieldNames rfl (by decide) fun fs h => ?_
    simp only [List.forall_mem_cons] at h
    obtain ⟨hmappings, hpayload, hheaders, hexpected, hremoved, hinjections,
      htimeout, hinsecure, hlimit, hinterval, -⟩ := h
    rw [field?_written hmappings, field?_written hpayload,
      field?_presentUnless hheaders Table.eq_empty, field?_present hexpected,
      field?_present hremoved, field?_presentUnless hinjections List.isEmpty_iff.mp,
      field?_present htimeout, field?_bool hinsecure, field?_present hlimit,
      field?_present hinterval]
    rfl
  reads_alike h := by
    refine reads_record_alike ManagedDeclaration.fieldNames rfl (fun fs gs h => ?_) h
    rw [field?_alike (h "mappings" _ rfl), field?_alike (h "payload" _ rfl),
      field?_alike (h "headers" _ rfl), field?_option_alike (h "expectedResponseCheck" _ rfl),
      field?_option_alike (h "isRemovedCheck" _ rfl),
      field?_alike (h "secretInjectionConfigs" _ rfl), field?_option_alike (h "waitTimeout" _ rfl),
      field?_alike (h "insecureSkipTLSVerify" _ rfl),
      field?_option_alike (h "rollbackRetriesLimit" _ rfl),
      field?_option_alike (h "nextReconcile" _ rfl)]

instance : Wire.Shallow ManagedDeclaration 5 where
  printable a := by
    refine Json.printable_ofPresent ?_
    simp only [List.forall_mem_cons]
    exact ⟨.written _ (by decide), .written _ (by decide), .presentUnless _ _ (by decide),
      .present _ (by decide), .present _ (by decide), .presentUnless _ _ (by decide),
      .present _ (by decide), .bool _, .present _ (by decide), .present _ (by decide), nofun⟩

def DisposableDeclaration.form : Form :=
  .record [("url", .plain), ("method", .plain), ("headers", .table (.list .plain)),
    ("body", .plain), ("expectedResponse", .plain), ("waitTimeout", .plain),
    ("insecureSkipTLSVerify", .plain), ("rollbackRetriesLimit", .plain),
    ("shouldLoopInfinitely", .plain), ("nextReconcile", .plain),
    ("secretInjectionConfigs", .list InjectionDeclaration.form)]

instance : Wire.Lawful DisposableDeclaration DisposableDeclaration.form where
  ne_null _ := nofun
  reads_back a := by
    refine reads_record DisposableDeclaration.fieldNames rfl (by decide) fun fs h => ?_
    simp only [List.forall_mem_cons] at h
    obtain ⟨hurl, hmethod, hheaders, hbody, hexpected, htimeout,
      hinsecure, hlimit, hloop, hinterval, hinjections, -⟩ := h
    rw [required?_string hurl, required?_string hmethod,
      field?_presentUnless hheaders Table.eq_empty, field?_present hbody, field?_present hexpected,
      field?_present htimeout, field?_bool hinsecure, field?_present hlimit, field?_bool hloop,
      field?_present hinterval, field?_presentUnless hinjections List.isEmpty_iff.mp]
    rfl
  reads_alike h := by
    refine reads_record_alike DisposableDeclaration.fieldNames rfl (fun fs gs h => ?_) h
    rw [required?_alike (h "url" _ rfl), required?_alike (h "method" _ rfl),
      field?_alike (h "headers" _ rfl), field?_option_alike (h "body" _ rfl),
      field?_option_alike (h "expectedResponse" _ rfl), field?_option_alike (h "waitTimeout" _ rfl),
      field?_alike (h "insecureSkipTLSVerify" _ rfl),
      field?_option_alike (h "rollbackRetriesLimit" _ rfl),
      field?_alike (h "shouldLoopInfinitely" _ rfl), field?_option_alike (h "nextReconcile" _ rfl),
      field?_alike (h "secretInjectionConfigs" _ rfl)]

instance : Wire.Shallow DisposableDeclaration 4 where
  printable a := by
    refine Json.printable_ofPresent ?_
    simp only [List.forall_mem_cons]
    exact ⟨.string _, .string _, .presentUnless _ _ (by decide), .present _ (by decide),
      .present _ (by decide), .present _ (by decide), .bool _, .present _ (by decide), .bool _,
      .present _ (by decide), .presentUnless _ _ (by decide), nofun⟩

/-! ### Status -/

def Response.form : Form :=
  .record [("statusCode", .plain), ("body", .plain), ("headers", .table (.list .plain))]

instance : Wire.Lawful Response Response.form where
  ne_null _ := nofun
  reads_back a := by
    refine reads_full_record Response.fieldNames rfl (by decide) fun fs h => ?_
    simp only [List.forall_mem_cons] at h
    obtain ⟨hcode, hbody, hheaders, -⟩ := h
    rw [field?_written hcode, field?_string hbody, field?_written hheaders]
    rfl
  reads_alike h := by
    refine reads_record_alike Response.fieldNames rfl (fun fs gs h => ?_) h
    rw [field?_alike (h "statusCode" _ rfl), field?_alike (h "body" _ rfl),
      field?_alike (h "headers" _ rfl)]

instance : Wire.Shallow Response 3 where
  printable a := by
    refine Json.printable_ofFields ?_
    simp only [List.forall_mem_cons]
    exact ⟨.written _ (by decide), .string _, .written _ (by decide), nofun⟩

def Cache.form : Form :=
  .record [("lastUpdated", .plain), ("response", Response.form)]

instance : Wire.Lawful Cache Cache.form where
  ne_null _ := nofun
  reads_back a := by
    refine reads_full_record Cache.fieldNames rfl (by decide) fun fs h => ?_
    simp only [List.forall_mem_cons] at h
    obtain ⟨hupdated, hresponse, -⟩ := h
    rw [field?_string hupdated, field?_written hresponse]
    rfl
  reads_alike h := by
    refine reads_record_alike Cache.fieldNames rfl (fun fs gs h => ?_) h
    rw [field?_alike (h "lastUpdated" _ rfl), field?_alike (h "response" _ rfl)]

instance : Wire.Shallow Cache 4 where
  printable a := by
    refine Json.printable_ofFields ?_
    simp only [List.forall_mem_cons]
    exact ⟨.string _, .written _ (by decide), nofun⟩

def RequestDetails.form : Form :=
  .record [("action", .plain), ("method", .plain), ("url", .plain), ("body", .plain),
    ("headers", .table (.list .plain))]

instance : Wire.Lawful RequestDetails RequestDetails.form where
  ne_null _ := nofun
  reads_back a := by
    refine reads_record RequestDetails.fieldNames rfl (by decide) fun fs h => ?_
    simp only [List.forall_mem_cons] at h
    obtain ⟨haction, hmethod, hurl, hbody, hheaders, -⟩ := h
    rw [field?_present haction, field?_string hmethod, field?_string hurl, field?_string hbody,
      field?_written hheaders]
    rfl
  reads_alike h := by
    refine reads_record_alike RequestDetails.fieldNames rfl (fun fs gs h => ?_) h
    rw [field?_option_alike (h "action" _ rfl), field?_alike (h "method" _ rfl),
      field?_alike (h "url" _ rfl), field?_alike (h "body" _ rfl), field?_alike (h "headers" _ rfl)]

instance : Wire.Shallow RequestDetails 3 where
  printable a := by
    refine Json.printable_ofPresent ?_
    simp only [List.forall_mem_cons]
    exact ⟨.present _ (by decide), .string _, .string _, .string _, .written _ (by decide), nofun⟩

def Status.form : Form :=
  .record [("response", Response.form), ("cache", Cache.form), ("failed", .plain),
    ("error", .plain), ("synced", .plain), ("requestDetails", RequestDetails.form),
    ("lastReconcileTime", .plain)]

instance : Wire.Lawful Status Status.form where
  ne_null _ := nofun
  reads_back a := by
    refine reads_record Status.fieldNames rfl (by decide) fun fs h => ?_
    simp only [List.forall_mem_cons] at h
    obtain ⟨hresponse, hcache, hfailed, herror, hsynced, hrequest, htime, -⟩ := h
    rw [field?_written hresponse, field?_written hcache, field?_written hfailed,
      field?_string herror, field?_bool hsynced, field?_written hrequest, field?_present htime]
    rfl
  reads_alike h := by
    refine reads_record_alike Status.fieldNames rfl (fun fs gs h => ?_) h
    rw [field?_alike (h "response" _ rfl), field?_alike (h "cache" _ rfl),
      field?_alike (h "failed" _ rfl), field?_alike (h "error" _ rfl),
      field?_alike (h "synced" _ rfl), field?_alike (h "requestDetails" _ rfl),
      field?_option_alike (h "lastReconcileTime" _ rfl)]

instance : Wire.Shallow Status 5 where
  printable a := by
    refine Json.printable_ofPresent ?_
    simp only [List.forall_mem_cons]
    exact ⟨.written _ (by decide), .written _ (by decide), .written _ (by decide), .string _,
      .bool _, .written _ (by decide), .present _ (by decide), nofun⟩

/-! ### Round trips -/

/-- Values are read back as they were written, also from their text, and values that differ only in unknown
fields and in the order of fields are read alike. -/
structure Wire.Faithful (α : Type) [Wire α] (form : Form) : Prop where
  reads_back : ∀ a : α, ofJson? (toJson a) = some a
  reads_text : ∀ a : α, (Json.document? (toJson a).text).bind ofJson? = some a
  reads_alike : ∀ v w : Json, form.Variant v w → (ofJson? w : Option α) = ofJson? v

section

variable {α : Type} [Wire α] {form : Form} [Wire.Lawful α form]

theorem Wire.Lawful.reads_variant {v w : Json} (h : form.Variant v w) :
    (ofJson? w : Option α) = ofJson? v := by
  induction h with
  | refl => rfl
  | tail _ hvaries ih => rw [Lawful.reads_alike hvaries, ih]

theorem Wire.Lawful.faithful {depth : Nat} [Shallow α depth] (h : depth ≤ Json.maxDepth) :
    Faithful α form where
  reads_back := Lawful.reads_back
  reads_text a := by
    rw [Json.document?_text ((Shallow.printable a).mono h)]
    exact Lawful.reads_back a
  reads_alike _ _ := Lawful.reads_variant

end

/-! ### The status that is kept -/

namespace Resource

/-- The fields of a resource with another status. -/
def withStatus (status : Json) (fields : List (String × Json)) : List (String × Json) :=
  ("status", status) :: Json.removeField "status" fields

theorem lookup_withStatus (status : Json) (fields : List (String × Json)) (n : String) :
    (withStatus status fields).lookup n = if n = "status" then some status else fields.lookup n := by
  rw [withStatus, lookup_cons_eq, Json.lookup_removeField]
  by_cases h : n = "status"
  · rw [if_pos h, if_pos h]
  · rw [if_neg h, if_neg h, if_neg h]

theorem repeatsField_withStatus {names : List String} (status : Json) {fields : List (String × Json)}
    (h : repeatsField names fields = false) : repeatsField names (withStatus status fields) = false := by
  rw [repeatsField_eq_false_iff] at h ⊢
  intro n hn
  have honce := h n hn
  rw [withStatus, List.filter_cons, Json.filter_removeField]
  by_cases hstatus : n = "status"
  · rw [if_pos hstatus]
    split <;> simp
  · have hother : ¬"status" = n := Ne.symm hstatus
    simp only [hstatus, hother, decide_false, Bool.false_eq_true, if_false]
    exact honce

/-- Only the status of the resource is read differently. -/
theorem ofJson?_withStatus {kind : ResourceKind} {fields : List (String × Json)} {r : Resource}
    (h : ofJson? kind (.object fields) = some r) {status : Json} {s : Status}
    (hstatus : (Wire.ofJson? status : Option (Option Status)) = some (some s)) :
    ofJson? kind (.object (withStatus status fields)) = some { r with status := some s } := by
  obtain ⟨known, hknown, h⟩ := Option.bind_eq_some_iff.mp h
  obtain ⟨metadata, hmetadata, h⟩ := Option.bind_eq_some_iff.mp h
  obtain ⟨declaration, hdeclaration, h⟩ := Option.bind_eq_some_iff.mp h
  obtain ⟨earlier, -, h⟩ := Option.bind_eq_some_iff.mp h
  cases h
  unfold Json.record? at hknown
  simp only at hknown
  split at hknown
  · cases hknown
  · rename_i hrepeats
    cases hknown
    have hrecord : (Json.object (withStatus status fields)).record? ["metadata", "spec", "status"] =
        some (withStatus status fields) := by
      unfold Json.record?
      simp only [repeatsField_withStatus status (Bool.not_eq_true _ ▸ hrepeats)]
      rfl
    have hfield : (field? (withStatus status fields) "status" none : Option (Option Status)) =
        some (some s) := by
      unfold field?
      rw [lookup_withStatus, if_pos rfl]
      exact hstatus
    unfold ofJson?
    rw [hrecord]
    show (((withStatus status fields).lookup "metadata").bind Metadata.ofJson?).bind _ = _
    rw [lookup_withStatus, if_neg (by decide), hmetadata]
    show (((withStatus status fields).lookup "spec").bind (declarationOfJson? kind)).bind _ = _
    rw [lookup_withStatus, if_neg (by decide), hdeclaration]
    show (field? (withStatus status fields) "status" none : Option (Option Status)).bind _ = _
    rw [hfield]
    rfl

end Resource

/-- Whatever the cluster adds to the status and in whatever order it gives it, the resource is read with
the status that it was asked to keep. -/
def Api.Persists (key : ResourceKey) (status : Status) : Prop :=
  ∀ replies, ∀ q ∈ sent (patchStatus key status) replies,
    ∃ written, q.body.bind (Json.field? "status") = some written ∧
      ∀ stored, Status.form.Variant written stored →
        ∀ kind fields r, Resource.ofJson? kind (.object fields) = some r →
          Resource.ofJson? kind (.object (Resource.withStatus stored fields)) =
            some { r with status := some status }

theorem Api.patchStatus_persists (key : ResourceKey) (status : Status) : Persists key status := by
  intro replies q hq
  have hbody : q.body = some (statusPatch key status) := by
    rcases patchStatus_sent key status replies with h | ⟨address, h⟩
    · rw [h] at hq
      cases hq
    · rw [h, List.mem_singleton] at hq
      rw [hq]
  refine ⟨Wire.toJson status, ?_, fun stored hvariant kind fields r hr => ?_⟩
  · rw [hbody]
    exact statusPatch_status key status
  · have hread : (Wire.ofJson? stored : Option Status) = some status := by
      rw [Wire.Lawful.reads_variant hvariant, Wire.Lawful.reads_back]
    have hnull : stored ≠ .null := by
      rintro rfl
      cases hread
    refine Resource.ofJson?_withStatus hr ?_
    rw [Wire.ofJson?_option hnull, hread]
    rfl

/-- **Every record of the wire is read back.** What is written of it reads as the same value, as a JSON value
and as a text, also after unknown fields have been added at any depth and fields have been reordered, so a
status that the cluster was asked to keep is the status of the resource that a later pass reads. -/
theorem Wire.all_faithful :
    Faithful Action .plain ∧ Faithful Mapping Mapping.form ∧ Faithful Payload Payload.form ∧
      Faithful CheckDeclaration CheckDeclaration.form ∧ Faithful SecretTarget SecretTarget.form ∧
      Faithful InjectionDeclaration InjectionDeclaration.form ∧ Faithful Response Response.form ∧
      Faithful Cache Cache.form ∧ Faithful RequestDetails RequestDetails.form ∧
      Faithful Status Status.form ∧ Faithful ManagedDeclaration ManagedDeclaration.form ∧
      Faithful DisposableDeclaration DisposableDeclaration.form ∧
      ∀ key status, Api.Persists key status :=
  ⟨Lawful.faithful (by decide), Lawful.faithful (by decide), Lawful.faithful (by decide),
    Lawful.faithful (by decide), Lawful.faithful (by decide), Lawful.faithful (by decide),
    Lawful.faithful (by decide), Lawful.faithful (by decide), Lawful.faithful (by decide),
    Lawful.faithful (by decide), Lawful.faithful (by decide), Lawful.faithful (by decide),
    Api.patchStatus_persists⟩

end HttpResource
