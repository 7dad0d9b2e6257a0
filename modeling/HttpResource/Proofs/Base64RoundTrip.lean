/-
# Base 64 there and back

The texts that are read are those that are written, and no others: where padding is missing or stands in the
wrong place, or where bits behind the last byte are not zero, nothing is read (`Base64.decode_eq_ok_iff`). The
filters of templates trim what they read and give texts only. What they read, trimmed, is again the one
encoding of the text that they give (`Base64.Codec.filters_inverse`), and as this follows from the form of
base 64 alone, it does not matter who reads and writes.

Key definitions: `Base64.textBytes`, `Base64.LastGroup`, `Base64.Codec`.
Key theorems: `Base64.decodeFrom_textBytes`, `Base64.decode_eq_ok_iff`, `Base64.decodeBase64_eq_ok_iff`,
`Base64.Codec.filters_inverse`.
-/
import HttpResource.Template.Filter
import HttpResource.Proofs.Base64Form
import HttpResource.Proofs.Results
import HttpResource.Proofs.Utf8

namespace HttpResource

namespace Base64

/-! ### Digits as bytes -/

def digitByte (n : Nat) : UInt8 := (digit n).toUInt8

def padByte : UInt8 := pad.toUInt8

theorem value?_digitByte {n : Nat} (h : n < 64) : value? (digitByte n) = some n := by
  revert n
  decide

theorem of_value? {b : UInt8} {n : Nat} (h : value? b = some n) : n < 64 ∧ b = digitByte n := by
  have hall : ∀ k < 256, ∀ n ∈ value? (UInt8.ofNat k), n < 64 ∧ UInt8.ofNat k = digitByte n := by
    decide +kernel
  have hb := hall b.toNat b.toNat_lt n
  rw [UInt8.ofNat_toNat] at hb
  exact hb h

theorem valueAt_eq_ok_iff {offset : Nat} {b : UInt8} {v : Nat} :
    valueAt offset b = .ok v ↔ v < 64 ∧ b = digitByte v := by
  unfold valueAt
  constructor
  · intro h
    split at h
    · rename_i hvalue
      cases h
      exact of_value? hvalue
    · cases h
  · rintro ⟨hv, rfl⟩
    rw [value?_digitByte hv]

theorem isPad_iff {b : UInt8} : isPad b = true ↔ b = padByte := by
  rw [isPad, decide_eq_true_iff, ← UInt8.toNat_inj]
  rfl

theorem isPad_digitByte {n : Nat} (h : n < 64) : isPad (digitByte n) = false := by
  revert n
  decide

/-! ### The last group -/

theorem lastValues_of_digits (start place padding : Nat) {values : List Nat} (h : ∀ v ∈ values, v < 64)
    (hplace : padding = 0 ∨ 2 ≤ place + values.length) :
    lastValues start place (values.map digitByte ++ List.replicate padding padByte) =
      .ok (values, padding) := by
  induction values generalizing place with
  | nil =>
    cases padding with
    | zero => rfl
    | succ n =>
      have hfirst : isPad padByte = true := isPad_iff.mpr rfl
      have hrest : (List.replicate n padByte).all isPad = true := by simp [hfirst]
      have hlate : ¬place < 2 := Nat.not_lt.mpr (hplace.resolve_left (Nat.succ_ne_zero n))
      simp [List.replicate_succ, lastValues, hfirst, hrest, hlate]
  | cons v values ih =>
    obtain ⟨hv, hvalues⟩ := List.forall_mem_cons.mp h
    rw [List.length_cons] at hplace
    have hrest := ih (place + 1) hvalues (by omega)
    rw [List.map_cons, List.cons_append, lastValues, isPad_digitByte hv, if_neg Bool.false_ne_true,
      valueAt_eq_ok_iff.mpr ⟨hv, rfl⟩]
    simp only [hrest]
    rfl

theorem digits_of_lastValues {start place : Nat} {group : List UInt8} {values : List Nat} {padding : Nat}
    (h : lastValues start place group = .ok (values, padding)) :
    (∀ v ∈ values, v < 64) ∧ group = values.map digitByte ++ List.replicate padding padByte := by
  induction group generalizing place values with
  | nil =>
    cases h
    exact ⟨by simp, rfl⟩
  | cons b rest ih =>
    unfold lastValues at h
    split at h
    · rename_i hpad
      split at h
      · cases h
      · rename_i hgood
        cases h
        simp only [Bool.or_eq_true, Bool.not_eq_true', not_or, Bool.not_eq_false, List.all_eq_true] at hgood
        refine ⟨by simp, List.eq_replicate_iff.mpr ⟨rfl, ?_⟩⟩
        exact List.forall_mem_cons.mpr ⟨isPad_iff.mp hpad, fun c hc => isPad_iff.mp (hgood.2 c hc)⟩
    · split at h
      · cases h
      · rename_i v hvalue
        obtain ⟨hv, rfl⟩ := valueAt_eq_ok_iff.mp hvalue
        cases hrest : lastValues start (place + 1) rest with
        | error e =>
          rw [hrest] at h
          cases h
        | ok last =>
          rw [hrest] at h
          cases h
          obtain ⟨hvalues, rfl⟩ := ih hrest
          exact ⟨List.forall_mem_cons.mpr ⟨hv, hvalues⟩, rfl⟩

/-! ### Bytes of digits -/

theorem byte_high (a : UInt8) {v : Nat} (h : v / 16 = a.toNat % 4) :
    UInt8.ofNat (a.toNat / 4 * 4 + v / 16) = a := by
  have hsum : a.toNat / 4 * 4 + v / 16 = a.toNat := by omega
  rw [hsum, UInt8.ofNat_toNat]

theorem byte_middle (b : UInt8) {v w : Nat} (hv : v % 16 = b.toNat / 16) (hw : w / 4 = b.toNat % 16) :
    UInt8.ofNat (v % 16 * 16 + w / 4) = b := by
  have hsum : v % 16 * 16 + w / 4 = b.toNat := by omega
  rw [hsum, UInt8.ofNat_toNat]

theorem byte_low (c : UInt8) {w : Nat} (h : w % 4 = c.toNat / 64) :
    UInt8.ofNat (w % 4 * 64 + c.toNat % 64) = c := by
  have hsum : w % 4 * 64 + c.toNat % 64 = c.toNat := by omega
  rw [hsum, UInt8.ofNat_toNat]

section

variable {u v w x : Nat}

theorem toNat_high (hu : u < 64) (hv : v < 64) : (UInt8.ofNat (u * 4 + v / 16)).toNat = u * 4 + v / 16 :=
  UInt8.toNat_ofNat_of_lt' (show _ < 256 by omega)

theorem toNat_middle (hw : w < 64) : (UInt8.ofNat (v % 16 * 16 + w / 4)).toNat = v % 16 * 16 + w / 4 :=
  UInt8.toNat_ofNat_of_lt' (show _ < 256 by omega)

theorem toNat_low (hx : x < 64) : (UInt8.ofNat (w % 4 * 64 + x)).toNat = w % 4 * 64 + x :=
  UInt8.toNat_ofNat_of_lt' (show _ < 256 by omega)

/-- Digits are those of the bytes that they stand for. -/
theorem encode_three (hu : u < 64) (hv : v < 64) (hw : w < 64) (hx : x < 64) (rest : List UInt8) :
    encode (.ofNat (u * 4 + v / 16) :: .ofNat (v % 16 * 16 + w / 4) :: .ofNat (w % 4 * 64 + x) :: rest) =
      [digit u, digit v, digit w, digit x] ++ encode rest := by
  have hfirst : (u * 4 + v / 16) / 4 = u := by omega
  have hsecond : (u * 4 + v / 16) % 4 * 16 + (v % 16 * 16 + w / 4) / 16 = v := by omega
  have hthird : (v % 16 * 16 + w / 4) % 16 * 4 + (w % 4 * 64 + x) / 64 = w := by omega
  have hfourth : (w % 4 * 64 + x) % 64 = x := by omega
  rw [encode, toNat_high hu hv, toNat_middle hw, toNat_low hx, hfirst, hsecond, hthird, hfourth]

theorem encode_two (hu : u < 64) (hv : v < 64) (hw : w < 64) (hzero : w % 4 = 0) :
    encode [.ofNat (u * 4 + v / 16), .ofNat (v % 16 * 16 + w / 4)] = [digit u, digit v, digit w, pad] := by
  have hfirst : (u * 4 + v / 16) / 4 = u := by omega
  have hsecond : (u * 4 + v / 16) % 4 * 16 + (v % 16 * 16 + w / 4) / 16 = v := by omega
  have hthird : (v % 16 * 16 + w / 4) % 16 * 4 = w := by omega
  rw [encode, toNat_high hu hv, toNat_middle hw, hfirst, hsecond, hthird]

theorem encode_one (hu : u < 64) (hv : v < 64) (hzero : v % 16 = 0) :
    encode [.ofNat (u * 4 + v / 16)] = [digit u, digit v, pad, pad] := by
  have hfirst : (u * 4 + v / 16) / 4 = u := by omega
  have hsecond : (u * 4 + v / 16) % 4 * 16 = v := by omega
  rw [encode, toNat_high hu hv, hfirst, hsecond]

end

/-! ### Reading -/

/-- The characters of a text as bytes. -/
def textBytes (bytes : List UInt8) : List UInt8 := (encode bytes).map Char.toUInt8

/-- What the last group of a text can be, and the bytes that it stands for. -/
inductive LastGroup : List UInt8 → List UInt8 → Prop
  | empty : LastGroup [] []
  | one {u v : Nat} (hu : u < 64) (hv : v < 64) (hzero : v % 16 = 0) :
      LastGroup [digitByte u, digitByte v, padByte, padByte] [.ofNat (u * 4 + v / 16)]
  | two {u v w : Nat} (hu : u < 64) (hv : v < 64) (hw : w < 64) (hzero : w % 4 = 0) :
      LastGroup [digitByte u, digitByte v, digitByte w, padByte]
        [.ofNat (u * 4 + v / 16), .ofNat (v % 16 * 16 + w / 4)]
  | three {u v w x : Nat} (hu : u < 64) (hv : v < 64) (hw : w < 64) (hx : x < 64) :
      LastGroup [digitByte u, digitByte v, digitByte w, digitByte x]
        [.ofNat (u * 4 + v / 16), .ofNat (v % 16 * 16 + w / 4), .ofNat (w % 4 * 64 + x)]

theorem decodeLast_of_lastGroup (start : Nat) {group bytes : List UInt8} (h : LastGroup group bytes) :
    decodeLast start group = .ok bytes := by
  cases h with
  | empty => rfl
  | @one u v hu hv hzero =>
    have hdigits : ∀ d ∈ [u, v], d < 64 := by simp [hu, hv]
    have hlast : lastValues start 0 [digitByte u, digitByte v, padByte, padByte] = .ok ([u, v], 2) :=
      lastValues_of_digits start 0 2 hdigits (.inr (Nat.le_refl 2))
    rw [decodeLast, hlast]
    simp [hzero]
  | @two u v w hu hv hw hzero =>
    have hdigits : ∀ d ∈ [u, v, w], d < 64 := by simp [hu, hv, hw]
    have hlast : lastValues start 0 [digitByte u, digitByte v, digitByte w, padByte] = .ok ([u, v, w], 1) :=
      lastValues_of_digits start 0 1 hdigits (.inr (Nat.le_succ 2))
    rw [decodeLast, hlast]
    simp [hzero]
  | @three u v w x hu hv hw hx =>
    have hdigits : ∀ d ∈ [u, v, w, x], d < 64 := by simp [hu, hv, hw, hx]
    have hlast : lastValues start 0 [digitByte u, digitByte v, digitByte w, digitByte x] =
        .ok ([u, v, w, x], 0) := lastValues_of_digits start 0 0 hdigits (.inl rfl)
    rw [decodeLast, hlast]
    simp

theorem lastGroup_of_decodeLast {start : Nat} {group bytes : List UInt8} (hshort : group.length ≤ 4)
    (h : decodeLast start group = .ok bytes) : LastGroup group bytes := by
  unfold decodeLast at h
  cases hlast : lastValues start 0 group with
  | error e =>
    rw [hlast] at h
    cases h
  | ok last =>
    obtain ⟨values, padding⟩ := last
    obtain ⟨hdigits, rfl⟩ := digits_of_lastValues hlast
    rw [List.length_append, List.length_map, List.length_replicate] at hshort
    rw [hlast] at h
    dsimp only at h
    split at h
    · rename_i hempty
      cases h
      rw [List.isEmpty_iff.mp hempty]
      exact .empty
    split at h
    · cases h
    split at h
    · cases h
    -- the padding is what is missing to four
    rename_i _ _ hfour
    rw [Decidable.not_not] at hfour
    split at h
    · simp only [List.forall_mem_cons, List.length_cons, List.length_nil] at hdigits hfour hshort
      obtain rfl : padding = 2 := by omega
      split at h
      · rename_i hzero
        cases h
        exact .one hdigits.1 hdigits.2.1 hzero
      · cases h
    · simp only [List.forall_mem_cons, List.length_cons, List.length_nil] at hdigits hfour hshort
      obtain rfl : padding = 1 := by omega
      split at h
      · rename_i hzero
        cases h
        exact .two hdigits.1 hdigits.2.1 hdigits.2.2.1 hzero
      · cases h
    · simp only [List.forall_mem_cons, List.length_cons, List.length_nil] at hdigits hfour hshort
      obtain rfl : padding = 0 := by omega
      cases h
      exact .three hdigits.1 hdigits.2.1 hdigits.2.2.1 hdigits.2.2.2.1
    · cases h

/-- The group is the text of its bytes. -/
theorem LastGroup.eq_textBytes {group bytes : List UInt8} (h : LastGroup group bytes) :
    group = textBytes bytes := by
  cases h with
  | empty => rfl
  | one hu hv hzero =>
    rw [textBytes, encode_one hu hv hzero]
    rfl
  | two hu hv hw hzero =>
    rw [textBytes, encode_two hu hv hw hzero]
    rfl
  | three hu hv hw hx =>
    rw [textBytes, encode_three hu hv hw hx]
    rfl

theorem lastGroup_textBytes {bytes : List UInt8} (hshort : bytes.length ≤ 3) :
    LastGroup (textBytes bytes) bytes := by
  match bytes, hshort with
  | [], _ => exact .empty
  | [a], _ =>
    have ha := a.toNat_lt
    have hgroup := LastGroup.one (u := a.toNat / 4) (v := a.toNat % 4 * 16) (by omega) (by omega) (by omega)
    rwa [byte_high a (by omega)] at hgroup
  | [a, b], _ =>
    have ha := a.toNat_lt
    have hb := b.toNat_lt
    have hgroup := LastGroup.two (u := a.toNat / 4) (v := a.toNat % 4 * 16 + b.toNat / 16)
      (w := b.toNat % 16 * 4) (by omega) (by omega) (by omega) (by omega)
    rwa [byte_high a (by omega), byte_middle b (by omega) (by omega)] at hgroup
  | [a, b, c], _ =>
    have ha := a.toNat_lt
    have hb := b.toNat_lt
    have hc := c.toNat_lt
    have hgroup := LastGroup.three (u := a.toNat / 4) (v := a.toNat % 4 * 16 + b.toNat / 16)
      (w := b.toNat % 16 * 4 + c.toNat / 64) (x := c.toNat % 64) (by omega) (by omega) (by omega) (by omega)
    rwa [byte_high a (by omega), byte_middle b (by omega) (by omega), byte_low c (by omega)] at hgroup

theorem eq_textBytes_of_decodeFrom {start : Nat} {digits bytes : List UInt8}
    (h : decodeFrom start digits = .ok bytes) : digits = textBytes bytes := by
  fun_induction decodeFrom start digits generalizing bytes with
  | case1 start a b c d e rest ih =>
    obtain ⟨u, hfirst, h⟩ := Except.bind_eq_ok_iff.mp h
    obtain ⟨v, hsecond, h⟩ := Except.bind_eq_ok_iff.mp h
    obtain ⟨w, hthird, h⟩ := Except.bind_eq_ok_iff.mp h
    obtain ⟨x, hfourth, h⟩ := Except.bind_eq_ok_iff.mp h
    obtain ⟨others, hothers, h⟩ := Except.bind_eq_ok_iff.mp h
    cases h
    obtain ⟨hu, rfl⟩ := valueAt_eq_ok_iff.mp hfirst
    obtain ⟨hv, rfl⟩ := valueAt_eq_ok_iff.mp hsecond
    obtain ⟨hw, rfl⟩ := valueAt_eq_ok_iff.mp hthird
    obtain ⟨hx, rfl⟩ := valueAt_eq_ok_iff.mp hfourth
    rw [ih hothers, textBytes, textBytes, encode_three hu hv hw hx]
    rfl
  | case2 start group hgroup =>
    refine (lastGroup_of_decodeLast ?_ h).eq_textBytes
    match group, hgroup with
    | [], _ | [_], _ | [_, _], _ | [_, _, _], _ | [_, _, _, _], _ => simp
    | a :: b :: c :: d :: e :: rest, hgroup => exact absurd rfl (hgroup a b c d e rest)

theorem decodeFrom_short {start : Nat} {group : List UInt8} (h : group.length ≤ 4) :
    decodeFrom start group = decodeLast start group := by
  match group, h with
  | [], _ | [_], _ | [_, _], _ | [_, _, _], _ | [_, _, _, _], _ => rfl

theorem decodeFrom_textBytes_of_length (start : Nat) {bytes : List UInt8} (h : bytes.length ≤ 3) :
    decodeFrom start (textBytes bytes) = .ok bytes := by
  have hshort : (textBytes bytes).length ≤ 4 := by
    match bytes, h with
    | [], _ => exact Nat.zero_le 4
    | [_], _ | [_, _], _ | [_, _, _], _ => exact Nat.le_refl 4
  rw [decodeFrom_short hshort, decodeLast_of_lastGroup start (lastGroup_textBytes h)]

theorem decodeFrom_textBytes (start : Nat) (bytes : List UInt8) :
    decodeFrom start (textBytes bytes) = .ok bytes := by
  induction bytes using encode.induct generalizing start with
  | case1 => rfl
  | case2 a => exact decodeFrom_textBytes_of_length start (show 1 ≤ 3 by decide)
  | case3 a b => exact decodeFrom_textBytes_of_length start (show 2 ≤ 3 by decide)
  | case4 a b c rest ih =>
    have hrest := ih (start + 4)
    cases htext : textBytes rest with
    | nil =>
      rw [htext] at hrest
      cases hrest
      exact decodeFrom_textBytes_of_length start (Nat.le_refl 3)
    | cons e others =>
      have ha := a.toNat_lt
      have hb := b.toNat_lt
      have hc := c.toNat_lt
      have hdigits : textBytes (a :: b :: c :: rest) = digitByte (a.toNat / 4) ::
          digitByte (a.toNat % 4 * 16 + b.toNat / 16) :: digitByte (b.toNat % 16 * 4 + c.toNat / 64) ::
          digitByte (c.toNat % 64) :: e :: others := by
        rw [← htext]
        rfl
      rw [htext] at hrest
      rw [hdigits, decodeFrom, valueAt_eq_ok_iff.mpr ⟨by omega, rfl⟩,
        valueAt_eq_ok_iff.mpr ⟨by omega, rfl⟩, valueAt_eq_ok_iff.mpr ⟨by omega, rfl⟩,
        valueAt_eq_ok_iff.mpr ⟨by omega, rfl⟩, hrest]
      simp only [bind, Except.bind, pure, Except.pure]
      rw [byte_high a (by omega), byte_middle b (by omega) (by omega), byte_low c (by omega)]

/-- The texts that are read are those that are written. -/
theorem decode_eq_ok_iff {digits bytes : List UInt8} :
    decode digits = .ok bytes ↔ digits = textBytes bytes := by
  unfold decode
  dsimp only
  split
  · rename_i hodd
    refine iff_of_false nofun ?_
    rintro rfl
    obtain ⟨values, zeros, padding, h⟩ := writes_encode bytes
    have hlength : (textBytes bytes).length % 4 = 0 := by
      rw [textBytes, List.length_map]
      exact h.length_eq
    rw [hlength] at hodd
    simp at hodd
  · constructor
    · exact eq_textBytes_of_decodeFrom
    · rintro rfl
      exact decodeFrom_textBytes 0 bytes

/-! ### Texts -/

theorem digit_plain {v : Nat} (h : v < 64) : (digit v).toNat < 128 ∧ Text.isBlank (digit v) = false := by
  revert v
  decide

theorem plain_of_mem_encode {bytes : List UInt8} {c : Char} (h : c ∈ encode bytes) :
    c.toNat < 128 ∧ Text.isBlank c = false := by
  obtain ⟨values, zeros, padding, hspells⟩ := writes_encode bytes
  rw [hspells.text_eq] at h
  rcases List.mem_append.mp h with h | h
  · obtain ⟨v, hv, rfl⟩ := List.mem_map.mp h
    exact digit_plain (hspells.values_lt v hv)
  · rw [List.eq_of_mem_replicate h]
    decide

theorem decode_bytesOf_iff {s : String} {bytes : List UInt8} :
    decode (Text.bytesOf s) = .ok bytes ↔ s.toList = encode bytes := by
  have htext : textBytes bytes = Text.bytesOf (String.ofList (encode bytes)) :=
    (Text.bytesOf_ascii fun c hc => (plain_of_mem_encode hc).1).symm
  rw [decode_eq_ok_iff, htext, Text.bytesOf_inj, ← String.toList_inj, String.toList_ofList]

/-- What is written has no blanks at its ends. -/
theorem trimmed_encodeText (s : String) : Text.trimmed (encodeText s) = encodeText s := by
  unfold Text.trimmed encodeText
  rw [String.toList_ofList, Text.trim_eq_self fun c hc => (plain_of_mem_encode hc).2]

theorem decodeBase64_eq_ok_iff {t s : String} :
    Template.Filter.decodeBase64 t = .ok s ↔ Text.trimmed t = encodeText s := by
  have hencode : (Text.trimmed t).toList = encode (Text.bytesOf s) ↔ Text.trimmed t = encodeText s := by
    rw [encodeText, ← String.toList_inj, String.toList_ofList]
  rw [← hencode, ← decode_bytesOf_iff, Template.Filter.decodeBase64]
  constructor
  · intro h
    split at h
    · cases h
    · rename_i bytes hbytes
      split at h
      · rename_i text htext
        cases h
        rw [hbytes, Text.ofBytes?_eq_some_iff.mp htext]
      · cases h
  · intro h
    have htext : Text.ofBytes? (Text.bytesOf s) = some s := Text.ofBytes?_eq_some_iff.mpr rfl
    rw [h]
    dsimp only
    rw [htext]

/-! ### Any reader and writer of the form -/

/-- A writer and a reader of base 64 of which only the form of the texts is known. -/
structure Codec where
  encode : List UInt8 → List Char
  decode : List UInt8 → Option (List UInt8)
  writes_encode : ∀ bytes, Writes bytes (encode bytes)
  decode_eq_some_iff : ∀ (s : String) bytes, decode (Text.bytesOf s) = some bytes ↔ Writes bytes s.toList

namespace Codec

variable (C : Codec)

def encodeText (s : String) : String := String.ofList (C.encode (Text.bytesOf s))

/-- The text that digits stand for, blanks around them ignored. -/
def decodeText (s : String) : Option String :=
  (C.decode (Text.bytesOf (Text.trimmed s))).bind Text.ofBytes?

theorem encode_eq (bytes : List UInt8) : C.encode bytes = Base64.encode bytes :=
  writes_iff.mp (C.writes_encode bytes)

theorem decodeText_eq_some_iff {t s : String} :
    C.decodeText t = some s ↔ Text.trimmed t = Base64.encodeText s := by
  have hencode : Writes (Text.bytesOf s) (Text.trimmed t).toList ↔ Text.trimmed t = Base64.encodeText s := by
    rw [writes_iff, Base64.encodeText, ← String.toList_inj, String.toList_ofList]
  rw [decodeText, Option.bind_eq_some_iff, ← hencode, ← C.decode_eq_some_iff]
  constructor
  · rintro ⟨bytes, hbytes, htext⟩
    rwa [← Text.ofBytes?_eq_some_iff.mp htext]
  · intro h
    exact ⟨_, h, Text.ofBytes?_eq_some_iff.mpr rfl⟩

/-- **Encoding and decoding undo each other.** Whatever reader and writer of the form the filters are made of,
they are these: what is encoded is decoded again, and what can be decoded is, without the blanks around it,
the encoding of what comes out. So a text has one encoding that is accepted. -/
theorem filters_inverse :
    (∀ s, C.encodeText s = Base64.encodeText s) ∧
      (∀ t s, C.decodeText t = some s ↔ Template.Filter.decodeBase64 t = .ok s) ∧
      (∀ s, Template.Filter.decodeBase64 (Base64.encodeText s) = .ok s) ∧
      (∀ t s, Template.Filter.decodeBase64 t = .ok s ↔ Base64.encodeText s = Text.trimmed t) ∧
      ∀ t u s, Template.Filter.decodeBase64 t = .ok s → Template.Filter.decodeBase64 u = .ok s →
        Text.trimmed t = Text.trimmed u := by
  refine ⟨fun s => ?_, fun t s => ?_, fun s => ?_, fun t s => ?_, fun t u s ht hu => ?_⟩
  · rw [encodeText, Base64.encodeText, C.encode_eq]
  · rw [C.decodeText_eq_some_iff, decodeBase64_eq_ok_iff]
  · exact decodeBase64_eq_ok_iff.mpr (trimmed_encodeText s)
  · rw [decodeBase64_eq_ok_iff, eq_comm]
  · calc Text.trimmed t = Base64.encodeText s := decodeBase64_eq_ok_iff.mp ht
      _ = Text.trimmed u := (decodeBase64_eq_ok_iff.mp hu).symm

/-- The reader and writer of this library. -/
def standard : Codec where
  encode := Base64.encode
  decode digits := (Base64.decode digits).toOption
  writes_encode := Base64.writes_encode
  decode_eq_some_iff s bytes := by rw [Except.toOption_eq_some_iff, decode_bytesOf_iff, writes_iff]

/-- The credentials of a login, in a block of their own. -/
def credentialsBlock : String := "  c3ZjOnDDpA==\n"

theorem credentialsBlock_decoded :
    Template.Filter.decodeBase64 credentialsBlock = .ok "svc:pä" ∧
      Template.Filter.decodeBase64 "c3ZjOnDDpA==" = .ok "svc:pä" ∧
      Base64.encodeText "svc:pä" = Text.trimmed credentialsBlock ∧
      Text.trimmed credentialsBlock = Text.trimmed "c3ZjOnDDpA==" := by
  have hblock : Template.Filter.decodeBase64 credentialsBlock = .ok "svc:pä" :=
    Except.toOption_eq_some_iff.mp (by decide +kernel)
  have hplain : Template.Filter.decodeBase64 "c3ZjOnDDpA==" = .ok "svc:pä" :=
    Except.toOption_eq_some_iff.mp (by decide +kernel)
  obtain ⟨-, -, -, hencoded, hone⟩ := filters_inverse standard
  exact ⟨hblock, hplain, (hencoded _ _).mp hblock, hone _ _ _ hblock hplain⟩

/-- Bits behind the last byte, and padding that is left out, are not accepted. -/
example : Base64.decode [0x51, 0x52, 0x3d, 0x3d] = .error (.lastSymbol 0x52 1) ∧
    Base64.decode [0x51, 0x51] = .error .padding := ⟨rfl, rfl⟩

end Codec

end Base64

end HttpResource
