/-
# The secret store

Values by namespace, name and key. Each key may be out of order, for reading and for writing.

* `SecretStore.read`, `SecretStore.write`: one access with a deadline.
-/
import HttpResource.Duration

namespace HttpResource

structure SecretKey where
  inNamespace : String
  name : String
  key : String
deriving DecidableEq, Repr

/-- Why an access failed. -/
inductive StoreError
  | cluster (reason : String)
  | notText (key : SecretKey)
  | timedOut (deadline : Duration)
deriving DecidableEq, Repr

def StoreError.message : StoreError → String
  | cluster reason => s!"kubernetes error: {reason}"
  | notText k => s!"secret {k.inNamespace}/{k.name} key '{k.key}' is not valid UTF-8"
  | timedOut deadline => s!"secret store timed out after {deadline.describe}"

/-- How an access to a key goes wrong. -/
inductive StoreFault
  | fails (e : StoreError)
  | hangs
deriving DecidableEq, Repr

/-- The error that a fault is seen as before a deadline. -/
def StoreFault.within (deadline : Duration) : StoreFault → StoreError
  | fails e => e
  | hangs => .timedOut deadline

structure SecretStore where
  values : List (SecretKey × String) := []
  /-- Keys that cannot be read, and how. -/
  readFault : SecretKey → Option StoreFault := fun _ => none
  /-- Keys that cannot be written, and how. -/
  writeFault : SecretKey → Option StoreFault := fun _ => none

namespace SecretStore

/-- The value of a key. -/
def get? (s : SecretStore) (k : SecretKey) : Option String := s.values.lookup k

/-- Values with one more, in the place of an earlier one of the same key. -/
def putValue (k : SecretKey) (value : String) : List (SecretKey × String) → List (SecretKey × String)
  | [] => [(k, value)]
  | (l, v) :: rest => if k = l then (k, value) :: rest else (l, v) :: putValue k value rest

def put (s : SecretStore) (k : SecretKey) (value : String) : SecretStore :=
  { s with values := putValue k value s.values }

theorem lookup_putValue (k l : SecretKey) (value : String) (values : List (SecretKey × String)) :
    (putValue k value values).lookup l = if l = k then some value else values.lookup l := by
  induction values with
  | nil =>
    by_cases h : l = k
    · simp [putValue, h]
    · simp [putValue, List.lookup_cons, h, beq_false_of_ne h]
  | cons e rest ih =>
    obtain ⟨m, v⟩ := e
    by_cases hkm : k = m
    · subst hkm
      by_cases h : l = k
      · simp [putValue, h]
      · simp [putValue, List.lookup_cons, h, beq_false_of_ne h]
    · by_cases h : l = m
      · subst h
        simp [putValue, hkm, Ne.symm hkm]
      · simp [putValue, List.lookup_cons, hkm, beq_false_of_ne h, ih]

/-- The value of a key, or nothing. -/
def read (s : SecretStore) (deadline : Duration) (k : SecretKey) : Except StoreError (Option String) :=
  match s.readFault k with
  | some fault => .error (fault.within deadline)
  | none => .ok (s.get? k)

/-- The store with a value for a key. -/
def write (s : SecretStore) (deadline : Duration) (k : SecretKey) (value : String) :
    Except StoreError SecretStore :=
  match s.writeFault k with
  | some fault => .error (fault.within deadline)
  | none => .ok (s.put k value)

end SecretStore

end HttpResource
