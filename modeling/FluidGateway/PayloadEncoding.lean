import FluidGateway.ErrorPayloads
import FluidGateway.DecimalConversion

/-!
# Writing payloads

How `fluidgateway/fluidlink_v2.py` makes the fields of a payload from the values
of a dictionary.  For each kind of field one theorem says which values are
written, and as which bytes.
-/

namespace FluidGateway.FluidLink

open Reading PayloadReader
open FluidGateway.Runtime (Casing)
open Native (Bytes)

/-! ## Dictionaries -/

/-- What the interpreter knows about Unicode; `readsInt` says of a value that is
no number whether `int` of it returns. -/
structure Interpreter where
  casing : Casing
  digitOf : PyDecimal.DigitOf
  readsInt : PyValue → Bool

/-- `default if value is None else value`. -/
def PyValue.orElse : PyValue → PyValue → PyValue
  | .none, default => default
  | value, _ => value

/-- `value is None`. -/
def PyValue.isNone : PyValue → Bool
  | .none => true
  | _ => false

/-- Nothing but `None` is `None`. -/
theorem PyValue.isNone_iff {value : PyValue} : value.isNone = true ↔ value = .none := by
  cases value <;> simp [isNone]

/-- A dictionary with text keys, in its order. -/
abbrev PyDict := List (String × PyValue)

namespace PyDict

/-- `payload.get(key)`. -/
def get (d : PyDict) (key : String) : PyValue :=
  (List.lookup key d).getD .none

/-- `key in payload`. -/
def has (d : PyDict) (key : String) : Bool :=
  (List.lookup key d).isSome

/-- The value of the first of some keys that is not `None`. -/
def first (d : PyDict) : List String → PyValue
  | [] => .none
  | key :: keys => (d.get key).orElse (d.first keys)

/-- `_value_or_default`. -/
def orDefault (d : PyDict) (key : String) (default : PyValue) : PyValue :=
  (d.get key).orElse default

end PyDict

/-! ## Values -/

/-- A `FluidLinkProtocolError` about a payload. -/
def refusal {α : Type} (message : String) : Except PyException α :=
  .error (.protocol (invalidPayload message))

/-- Two steps in a row succeed exactly where the first does and then the second on what it
gave. -/
theorem bound_iff {α β : Type} {first : Except PyException α} {rest : α → Except PyException β}
    {b : β} : (first >>= rest) = .ok b ↔ ∃ a, first = .ok a ∧ rest a = .ok b := by
  cases first with
  | error e => exact iff_of_false (fun h => nomatch h) fun ⟨_, h, _⟩ => nomatch h
  | ok a => exact ⟨fun h => ⟨a, rfl, h⟩, fun ⟨_, h, hrest⟩ => Except.ok.inj h ▸ hrest⟩

/-- A check before a step: both succeed exactly where the check does not refuse and the step
succeeds. -/
theorem guarded_iff {α : Type} {c : Prop} [Decidable c] {message : String}
    {rest : Except PyException α} {a : α} :
    (if c then refusal message else rest) = .ok a ↔ ¬ c ∧ rest = .ok a := by
  by_cases h : c
  · rw [if_pos h]
    exact iff_of_false (fun h => nomatch h) fun hrest => hrest.1 h
  · rw [if_neg h]
    exact (and_iff_right h).symm

/-- Renaming the error leaves a success as it is. -/
theorem mapError_iff {α : Type} {x : Except FluidLinkProtocolError α} {a : α} :
    x.mapError PyException.protocol = .ok a ↔ x = .ok a := by
  cases x with
  | error e => simp [Except.mapError]
  | ok b => simp [Except.mapError]

namespace PyValue

/-- The whole number that a value is equal to. -/
def whole? : PyValue → Option ℤ
  | .int value => some value
  | .float (.finite x) => if x.den = 1 then some x.num else Option.none
  | .decimal d => d.number.bind fun x => if x.den = 1 then some x.num else Option.none
  | _ => Option.none

/-- `int(value)` returns. -/
def truncates (readsInt : PyValue → Bool) : PyValue → Bool
  | .int _ | .float (.finite _) | .decimal (.finite ..) => true
  | .float _ | .decimal _ => false
  | value => readsInt value

variable (py : Interpreter)

/-- `_unsigned`. -/
def unsigned (value : PyValue) (maximum : ℕ) (name : String) : Except PyException ℕ :=
  if value.isBool ∨ value.truncates py.readsInt = false then
    refusal ("FluidLink v2 " ++ name ++ " must be an unsigned integer.")
  else
    match value.whole? with
    | Option.none => refusal ("FluidLink v2 " ++ name ++ " is out of range.")
    | some number =>
      if ¬ (0 ≤ number ∧ number ≤ maximum) then
        refusal ("FluidLink v2 " ++ name ++ " is out of range.")
      else .ok number.toNat

/-- The number that a value of `unsigned` is. -/
def IsUnsigned (value : PyValue) (maximum n : ℕ) : Prop :=
  value.whole? = some (n : ℤ) ∧ n ≤ maximum

/-- `_unsigned` succeeds exactly on a value that is a whole number within the limit; a float
or a decimal may be one, a boolean may not. -/
theorem unsigned_iff {value : PyValue} {maximum n : ℕ} {name : String} :
    unsigned py value maximum name = .ok n ↔ value.IsUnsigned maximum n := by
  unfold unsigned IsUnsigned
  rw [guarded_iff]
  cases hwhole : value.whole? with
  | none => exact iff_of_false (fun h => nomatch h.2) fun h => nomatch h.1
  | some number =>
      have hreads : ¬ (value.isBool = true ∨ value.truncates py.readsInt = false) := by
        cases value with
        | int z => simp [isBool, truncates]
        | float x =>
            cases x with
            | finite x => simp [isBool, truncates]
            | _ => cases hwhole
        | decimal d =>
            cases d with
            | finite negative coefficient exponent => simp [isBool, truncates]
            | _ => cases hwhole
        | _ => cases hwhole
      rw [and_iff_right hreads, guarded_iff, not_not, Except.ok.injEq, Option.some.injEq]
      omega

/-- `values[value.strip().lower()]`; a text with a surrogate is no name. -/
def enumOpcode (t : PyText) (values : List (String × ℕ)) : Option ℕ :=
  t.string?.bind fun s => values.lookup (py.casing.lower (strip s))

/-- `_enum_value`. -/
def enumValue (value : PyValue) (values : List (String × ℕ)) (name : String) :
    Except PyException ℕ :=
  match value with
  | .text t =>
    match enumOpcode py t values with
    | some opcode => .ok opcode
    | Option.none =>
      let key := py.casing.lower (strip (String.ofList t.replaced))
      let shown := FluidLink.textOr key "missing"
      refusal s!"Unsupported FluidLink v2 {name}: {shown}."
  | _ => refusal ("FluidLink v2 " ++ name ++ " must be a string.")

/-- The name in a table that a value is, whatever its case and the white space
around it. -/
def Names (value : PyValue) (values : List (String × ℕ)) (key : String) : Prop :=
  ∃ s, value = .text (PyText.ofString s) ∧ py.casing.lower (strip s) = key ∧
    key ∈ values.map Prod.fst

/-- An enumeration is written exactly where the value names an entry of its table, and then
as that entry's code. -/
theorem enumValue_iff {value : PyValue} {values : List (String × ℕ)} (h : Table values)
    {name : String} {opcode : ℕ} :
    enumValue py value values name = .ok opcode ↔
      ∃ key, Names py value values key ∧ opcode = opcodeOf values key := by
  have hopcode : enumValue py value values name = .ok opcode ↔
      ∃ t, value = .text t ∧ enumOpcode py t values = some opcode := by
    cases value with
    | text t =>
        unfold enumValue
        cases hfound : enumOpcode py t values with
        | none =>
            simp only [hfound]
            refine iff_of_false (fun h => nomatch h) ?_
            rintro ⟨t', ht, hsome⟩
            cases ht
            rw [hfound] at hsome
            cases hsome
        | some found =>
            simp only [Except.ok.injEq, PyValue.text.injEq, exists_eq_left', hfound,
              Option.some.injEq]
    | _ =>
        refine iff_of_false (fun h => nomatch h) ?_
        rintro ⟨t, ht, -⟩
        cases ht
  rw [hopcode]
  unfold enumOpcode
  constructor
  · rintro ⟨t, rfl, hfound⟩
    obtain ⟨s, hs, hlookup⟩ := Option.bind_eq_some_iff.mp hfound
    obtain rfl := PyText.string?_eq_some.mp hs
    refine ⟨_, ⟨s, rfl, rfl, List.mem_map_of_mem ((lookup_eq_some h.names).mp hlookup)⟩, ?_⟩
    rw [opcodeOf, hlookup]
    rfl
  · rintro ⟨key, ⟨s, rfl, rfl, hkey⟩, rfl⟩
    obtain ⟨⟨key, value⟩, hitem, hkey⟩ := List.mem_map.mp hkey
    refine ⟨_, rfl, Option.bind_eq_some_iff.mpr ⟨s, PyText.string?_ofString s, ?_⟩⟩
    rw [← hkey, opcodeOf, (lookup_eq_some h.names).mpr hitem]
    rfl

/-- `_optional_text`. -/
def optionalText : PyValue → Except PyException (Option PyValue)
  | .none => .ok Option.none
  | .text t => .ok (some (.text t))
  | _ => refusal "FluidLink v2 optional text field must be a string."

/-- An optional text is `None` or a text; everything else is refused. -/
theorem optionalText_iff {value : PyValue} {x : Option PyValue} :
    optionalText value = .ok x ↔ (value = .none ∧ x = Option.none) ∨
      ∃ t, value = .text t ∧ x = some (.text t) := by
  cases value with
  | none => simp [optionalText, eq_comm]
  | text t => simp [optionalText, eq_comm]
  | _ =>
      refine iff_of_false (fun h => nomatch h) ?_
      rintro (⟨h, -⟩ | ⟨t, h, -⟩) <;> cases h

/-! ## Fields -/

/-- `encode_bounded_text`. -/
def boundedText (value : PyValue) (maximumBytes : ℕ) (allowEmpty : Bool := false) :
    Except PyException Bytes :=
  match value with
  | .text t => (t.boundedText maximumBytes allowEmpty).mapError .protocol
  | _ => refusal "FluidLink v2 text field must be a string."

/-- The texts that are encoded. -/
theorem boundedText_iff {value : PyValue} {maximumBytes : ℕ} {allowEmpty : Bool} {data : Bytes} :
    boundedText value maximumBytes allowEmpty = .ok data ↔
      ∃ s, value = .text (PyText.ofString s) ∧ (utf8 s).length ≤ maximumBytes ∧
        (allowEmpty = true ∨ strip s ≠ "") ∧ data = utf8 s := by
  cases value with
  | text t =>
      unfold boundedText PyText.boundedText
      rw [mapError_iff]
      cases hencode : t.encodeStrict with
      | none =>
          refine iff_of_false (fun h => nomatch h) ?_
          rintro ⟨s, hs, -⟩
          cases hs
          rw [PyText.encodeStrict_ofString] at hencode
          cases hencode
      | some encoded =>
          obtain ⟨s, rfl, rfl⟩ := PyText.encodeStrict_eq_some.mp hencode
          have hblank : (PyText.ofString s).strip = [] ↔ strip s = "" := by
            rw [PyText.strip_ofString, PyText.ofString_eq_nil]
          have hrest : (∃ s', PyValue.text (PyText.ofString s) = .text (PyText.ofString s') ∧
              (utf8 s').length ≤ maximumBytes ∧ (allowEmpty = true ∨ strip s' ≠ "") ∧
                data = utf8 s') ↔ (utf8 s).length ≤ maximumBytes ∧
                  (allowEmpty = true ∨ strip s ≠ "") ∧ data = utf8 s := by
            constructor
            · rintro ⟨s', hs, h⟩
              rw [PyValue.text.injEq] at hs
              rwa [PyText.ofString_injective hs]
            · exact fun h => ⟨s, rfl, h⟩
          rw [hrest]
          simp only [hblank]
          by_cases hbad : maximumBytes < (utf8 s).length ∨ allowEmpty = false ∧ strip s = ""
          · rw [if_pos hbad]
            refine iff_of_false (fun h => nomatch h) ?_
            rintro ⟨hsize, hvisible, -⟩
            rcases hbad with hbad | ⟨hempty, hbad⟩
            · omega
            · rcases hvisible with hallow | hvisible
              · rw [hempty] at hallow
                cases hallow
              · exact hvisible hbad
          · rw [if_neg hbad, Except.ok.injEq, eq_comm]
            push Not at hbad
            constructor
            · intro h
              refine ⟨hbad.1, ?_, h⟩
              cases allowEmpty with
              | true => exact .inl rfl
              | false => exact .inr (hbad.2 rfl)
            · exact fun h => h.2.2
  | _ =>
      refine iff_of_false (fun h => nomatch h) ?_
      rintro ⟨s, hs, -⟩
      cases hs

end PyValue

namespace PyWriter

/-- `_PayloadWriter._integer`, and the bytes that are packed. -/
def integer (kind : String) (width value : ℕ) : Except PyException Bytes :=
  (PayloadWriter.integer kind width value).mapError .protocol

def u8 : ℕ → Except PyException Bytes := integer "u8" 1
def u16 : ℕ → Except PyException Bytes := integer "u16" 2
def u32 : ℕ → Except PyException Bytes := integer "u32" 4
def u64 : ℕ → Except PyException Bytes := integer "u64" 8

/-- An integer is written exactly where it fits its width, and then in little-endian order. -/
theorem integer_iff {kind : String} {width value : ℕ} {data : Bytes} :
    integer kind width value = .ok data ↔ value < 256 ^ width ∧ data = integerBytes width value := by
  unfold integer PayloadWriter.integer
  rw [mapError_iff]
  by_cases h : value < 256 ^ width
  · rw [if_pos h, Except.ok.injEq, and_iff_right h]
    exact eq_comm
  · rw [if_neg h]
    exact iff_of_false (fun h => nomatch h) fun h' => h h'.1

/-- `raw`: bytes of a fixed count, and nothing but bytes. -/
def raw (value : PyValue) (expectedSize : ℕ) : Except PyException Bytes :=
  match value with
  | .bytes data => (PayloadWriter.raw data expectedSize).mapError .protocol
  | _ => refusal "FluidLink v2 binary field must be bytes."

/-- Raw bytes are written exactly where the value is bytes of the expected count. -/
theorem raw_iff {value : PyValue} {expectedSize : ℕ} {data : Bytes} :
    raw value expectedSize = .ok data ↔ value = .bytes data ∧ data.length = expectedSize := by
  cases value with
  | bytes data' =>
      unfold raw PayloadWriter.raw
      rw [mapError_iff, PyValue.bytes.injEq]
      by_cases h : data'.length = expectedSize
      · rw [if_pos h, Except.ok.injEq]
        constructor
        · rintro rfl
          exact ⟨rfl, h⟩
        · exact fun h => h.1
      · rw [if_neg h]
        refine iff_of_false (fun h => nomatch h) ?_
        rintro ⟨rfl, h'⟩
        exact h h'
  | _ =>
      refine iff_of_false (fun h => nomatch h) ?_
      rintro ⟨h, -⟩
      cases h

/-- `text8`: the text is bounded first, and its length is checked again against one byte. -/
def text8 (value : PyValue) (maximumBytes : ℕ) : Except PyException Bytes := do
  let encoded ← value.boundedText maximumBytes
  if 0xFF < encoded.length then refusal "FluidLink v2 text8 field is too large."
  else
    let length ← u8 encoded.length
    return length ++ encoded

/-- `text16`: the text after its length in two bytes. -/
def text16 (value : PyValue) (maximumBytes : ℕ) (allowEmpty : Bool := false) :
    Except PyException Bytes := do
  let encoded ← value.boundedText maximumBytes allowEmpty
  let length ← u16 encoded.length
  return length ++ encoded

/-- The texts that are written behind their length. -/
theorem text16_iff {value : PyValue} {maximumBytes : ℕ} {allowEmpty : Bool} {data : Bytes} :
    text16 value maximumBytes allowEmpty = .ok data ↔
      ∃ s, value = .text (PyText.ofString s) ∧ TextFits 2 maximumBytes allowEmpty s ∧
        data = textBytes 2 s := by
  unfold text16 u16
  simp only [bound_iff, PyValue.boundedText_iff, integer_iff]
  constructor
  · rintro ⟨_, ⟨s, rfl, hsize, hvisible, rfl⟩, _, ⟨hlength, rfl⟩, h⟩
    cases h
    exact ⟨s, rfl, ⟨hlength, hsize, hvisible⟩, rfl⟩
  · rintro ⟨s, rfl, ⟨hlength, hsize, hvisible⟩, rfl⟩
    exact ⟨_, ⟨s, rfl, hsize, hvisible, rfl⟩, _, ⟨hlength, rfl⟩, rfl⟩

/-- A short text is written exactly where the value is a text within both limits. -/
theorem text8_iff {value : PyValue} {maximumBytes : ℕ} {data : Bytes} :
    text8 value maximumBytes = .ok data ↔
      ∃ s, value = .text (PyText.ofString s) ∧ TextFits 1 maximumBytes false s ∧
        data = textBytes 1 s := by
  unfold text8 u8
  simp only [bound_iff, PyValue.boundedText_iff]
  constructor
  · rintro ⟨_, ⟨s, rfl, hsize, hvisible, rfl⟩, h⟩
    obtain ⟨_, h⟩ := guarded_iff.mp h
    obtain ⟨_, hinteger, h⟩ := bound_iff.mp h
    obtain ⟨hlength, rfl⟩ := integer_iff.mp hinteger
    cases h
    exact ⟨s, rfl, ⟨hlength, hsize, hvisible⟩, rfl⟩
  · rintro ⟨s, rfl, ⟨hlength, hsize, hvisible⟩, rfl⟩
    refine ⟨_, ⟨s, rfl, hsize, hvisible, rfl⟩, guarded_iff.mpr ⟨by omega, ?_⟩⟩
    exact bound_iff.mpr ⟨_, integer_iff.mpr ⟨hlength, rfl⟩, rfl⟩

/-- A field that is written when it is there. -/
def optional {α : Type} (write : α → Except PyException Bytes) : Option α → Except PyException Bytes
  | some value => write value
  | none => .ok []

/-- Items of a list, one behind the other. -/
def each (write : PyValue → Except PyException Bytes) : List PyValue → Except PyException Bytes
  | [] => .ok []
  | item :: items => do
    let first ← write item
    let rest ← each write items
    return first ++ rest

/-- A list is written exactly where each item means a valid entry, and then as the entries'
bytes in a row. What one item is written as is the hypothesis. -/
theorem each_iff {α : Type} {write : PyValue → Except PyException Bytes} {valid : α → Prop}
    {means : PyValue → α → Prop} {bytes : α → Bytes}
    (h : ∀ {item data}, write item = .ok data ↔ ∃ a, valid a ∧ means item a ∧ data = bytes a)
    {items : List PyValue} {data : Bytes} :
    each write items = .ok data ↔ ∃ as, List.Forall₂ means items as ∧ (∀ a ∈ as, valid a) ∧
      data = (as.map bytes).flatten := by
  induction items generalizing data with
  | nil =>
      constructor
      · intro h
        cases h
        exact ⟨[], .nil, by simp, rfl⟩
      · rintro ⟨as, has, -, rfl⟩
        cases has
        rfl
  | cons item items ih =>
      unfold each
      simp only [bound_iff, h, ih]
      constructor
      · rintro ⟨_, ⟨a, ha, hitem, rfl⟩, _, ⟨as, hitems, has, rfl⟩, h⟩
        cases h
        exact ⟨a :: as, .cons hitem hitems, List.forall_mem_cons.mpr ⟨ha, has⟩, rfl⟩
      · rintro ⟨as, hitems, has, rfl⟩
        cases hitems with
        | cons hitem hitems =>
            rw [List.forall_mem_cons] at has
            exact ⟨_, ⟨_, has.1, hitem, rfl⟩, _, ⟨_, hitems, has.2, rfl⟩, rfl⟩

/-- Identifiers, one behind the other. -/
def identifiers (items : List PyValue) : Except PyException Bytes :=
  each (fun item => text16 item 256) items

/-- The value of a text. -/
def ofText (s : String) : PyValue :=
  .text (PyText.ofString s)

/-- A list of identifiers is written exactly where every item is the text of one. -/
theorem identifiers_iff {items : List PyValue} {data : Bytes} :
    identifiers items = .ok data ↔ ∃ texts : List String, items = texts.map ofText ∧
      (∀ text ∈ texts, Identifier text) ∧ data = (texts.map (textBytes 2)).flatten := by
  have hitem : ∀ {item data}, text16 item 256 = .ok data ↔
      ∃ s, Identifier s ∧ item = ofText s ∧ data = textBytes 2 s := by
    intro item data
    rw [text16_iff]
    exact exists_congr fun s => and_left_comm
  unfold identifiers
  rw [each_iff hitem]
  refine exists_congr fun texts => and_congr_left fun _ => ?_
  rw [← List.forall₂_map_right_iff, List.forall₂_eq_eq_eq]

/-- `_PayloadWriter.finish`. -/
def finish (payload : Bytes) : Except PyException Bytes :=
  if Native.maxPayload < payload.length then
    .error (.protocol ⟨"payload_too_large", "FluidLink v2 payload exceeds the 65,535-byte limit."⟩)
  else .ok payload

/-- A payload is finished exactly where it is within the limit, and then unchanged. -/
theorem finish_iff {payload data : Bytes} :
    finish payload = .ok data ↔ payload.length ≤ Native.maxPayload ∧ data = payload := by
  unfold finish
  by_cases h : Native.maxPayload < payload.length
  · rw [if_pos h]
    exact iff_of_false (fun h => nomatch h) fun h' => absurd h'.1 (not_le.mpr h)
  · rw [if_neg h, Except.ok.injEq, and_iff_right (not_lt.mp h)]
    exact eq_comm

end PyWriter

/-! ## Lists, times and sizes -/

open PyWriter (ofText)

/-- `_text_list`. -/
def textList (value : PyValue) (maximumCount : ℕ) (name : String) :
    Except PyException (List PyValue) :=
  match value with
  | .list items =>
    if maximumCount < items.length then
      refusal ("FluidLink v2 " ++ name ++ " list exceeds its limit.")
    else do
      let _ ← items.mapM fun item => item.boundedText 256
      return items
  | _ => refusal ("FluidLink v2 " ++ name ++ " must be a list.")

/-- A list of identifiers as a value. -/
def ofTexts (texts : List String) : PyValue :=
  .list (texts.map ofText)

/-- Bounding every text of a list succeeds exactly where each is an identifier, and gives
their encodings. -/
theorem mapM_boundedText {items : List PyValue} {fields : List Bytes} :
    items.mapM (fun item => item.boundedText 256) = .ok fields ↔
      ∃ texts : List String, items = texts.map ofText ∧ (∀ text ∈ texts, Identifier text) ∧
        fields = texts.map utf8 := by
  induction items generalizing fields with
  | nil =>
      constructor
      · intro h
        cases h
        exact ⟨[], rfl, by simp, rfl⟩
      · rintro ⟨texts, htexts, -, rfl⟩
        rw [List.map_eq_nil_iff.mp htexts.symm]
        rfl
  | cons item items ih =>
      rw [List.mapM_cons]
      simp only [bound_iff, PyValue.boundedText_iff, ih]
      constructor
      · rintro ⟨_, ⟨s, rfl, hsize, hvisible, rfl⟩, _, ⟨texts, rfl, htexts, rfl⟩, h⟩
        cases h
        exact ⟨s :: texts, rfl, List.forall_mem_cons.mpr ⟨⟨by omega, hsize, hvisible⟩, htexts⟩, rfl⟩
      · rintro ⟨texts, hitems, htexts, rfl⟩
        cases texts with
        | nil => cases hitems
        | cons s texts =>
            obtain ⟨rfl, rfl⟩ := List.cons.inj hitems
            rw [List.forall_mem_cons] at htexts
            exact ⟨_, ⟨s, rfl, htexts.1.size, htexts.1.visible, rfl⟩, _, ⟨texts, rfl, htexts.2, rfl⟩,
              rfl⟩

/-- A list field is accepted exactly where it is a list of identifiers that is not too long. -/
theorem textList_iff {value : PyValue} {maximumCount : ℕ} {name : String} {items : List PyValue} :
    textList value maximumCount name = .ok items ↔ ∃ texts : List String, value = ofTexts texts ∧
      texts.length ≤ maximumCount ∧ (∀ text ∈ texts, Identifier text) ∧
        items = texts.map ofText := by
  cases value with
  | list elements =>
      unfold textList ofTexts
      rw [guarded_iff]
      simp only [bound_iff, mapM_boundedText, PyValue.list.injEq, not_lt]
      constructor
      · rintro ⟨hcount, _, ⟨texts, rfl, htexts, rfl⟩, h⟩
        cases h
        rw [List.length_map] at hcount
        exact ⟨texts, rfl, hcount, htexts, rfl⟩
      · rintro ⟨texts, rfl, hcount, htexts, rfl⟩
        rw [List.length_map]
        exact ⟨hcount, _, ⟨texts, rfl, htexts, rfl⟩, rfl⟩
  | _ =>
      refine iff_of_false (fun h => nomatch h) ?_
      rintro ⟨texts, h, -⟩
      cases h

section

variable (py : Interpreter)

/-- `_time_scalar`. -/
def timeScalar (value : PyValue) (isMicroseconds : Bool) (maximum : ℕ) : Except PyException ℕ :=
  if isMicroseconds then value.unsigned py maximum "microseconds"
  else value.scaledDecimal py.digitOf 1000 maximum "milliseconds"

/-- `_time_value`. -/
def timeValue (d : PyDict) (microsecondsKey millisecondsKey : String) (maximum : ℕ) :
    Except PyException ℕ :=
  match List.lookup microsecondsKey d with
  | some value => value.unsigned py maximum microsecondsKey
  | none => timeScalar py ((List.lookup millisecondsKey d).getD (.int 0)) false maximum

/-- `_memory_scalar`. -/
def memoryScalar (value : PyValue) (isBytes : Bool) : Except PyException ℕ :=
  if isBytes then value.unsigned py maximumU64 "bytes"
  else value.scaledDecimal py.digitOf mebibyte maximumU64 "megabytes"

/-- `_memory_value`. -/
def memoryValue (d : PyDict) (bytesKey megabytesKey : String) : Except PyException ℕ :=
  match List.lookup bytesKey d with
  | some value => value.unsigned py maximumU64 bytesKey
  | none => ((List.lookup megabytesKey d).getD (.int 0)).scaledDecimal py.digitOf mebibyte
      maximumU64 megabytesKey

/-- The whole units that a quantity is: the value itself, or the value times the
scale, a half rounded up, unless the product is next to a half. -/
def Amount (value : PyValue) (whole : Bool) (c : Conversion) (n : ℕ) : Prop :=
  if whole then value.IsUnsigned c.maximum n
  else n ≤ c.maximum ∧ (value.Convertible py.digitOf c →
    ∃ x, value.denoted py.digitOf = some x ∧ n = ⌊x * c.scale + 1 / 2⌋₊)

/-- The quantity under one of two keys, or nothing. -/
def Quantity (d : PyDict) (wholeKey scaledKey : String) (c : Conversion) (n : ℕ) : Prop :=
  match List.lookup wholeKey d with
  | some value => Amount py value true c n
  | none => Amount py ((List.lookup scaledKey d).getD (.int 0)) false c n

variable {py}

/-- A scaled field that was accepted is within its limit and, where it is convertible,
rounded half up. -/
theorem amount_of_scaled {value : PyValue} {c : Conversion} {n : ℕ} {name : String}
    (h : value.scaledDecimal py.digitOf c.scale c.maximum name = .ok n) :
    Amount py value false c n := by
  obtain ⟨_, _, _, hn⟩ := PyValue.scaledDecimal_ok h
  exact ⟨hn, PyValue.scaledDecimal_rounded h⟩

/-- A whole field that was accepted is the number that it is. -/
theorem amount_of_unsigned {value : PyValue} {c : Conversion} {n : ℕ} {name : String}
    (h : value.unsigned py c.maximum name = .ok n) : Amount py value true c n :=
  (PyValue.unsigned_iff py).mp h

/-- An amount is within its limit, whichever way it was given. -/
theorem Amount.le {value : PyValue} {whole : Bool} {c : Conversion} {n : ℕ}
    (h : Amount py value whole c n) : n ≤ c.maximum := by
  cases whole with
  | true => exact h.2
  | false => exact h.1

/-- A cost, or another time of an event. -/
theorem amount_of_time {value : PyValue} {whole : Bool} {n : ℕ}
    (h : timeScalar py value whole Conversion.eventTime.maximum = .ok n) :
    Amount py value whole .eventTime n := by
  cases whole with
  | true => exact amount_of_unsigned h
  | false => exact amount_of_scaled (c := .eventTime) h

/-- A size of memory, whichever way it was given. -/
theorem amount_of_memory {value : PyValue} {whole : Bool} {n : ℕ}
    (h : memoryScalar py value whole = .ok n) : Amount py value whole .memory n := by
  cases whole with
  | true => exact amount_of_unsigned (c := .memory) h
  | false => exact amount_of_scaled (c := .memory) h

/-- A time under one of two keys: the whole key is looked up first, and a missing value
under both counts as zero. -/
theorem quantity_of_time {d : PyDict} {wholeKey scaledKey : String} {c : Conversion} {n : ℕ}
    (hscale : c.scale = 1000) (h : timeValue py d wholeKey scaledKey c.maximum = .ok n) :
    Quantity py d wholeKey scaledKey c n := by
  unfold timeValue at h
  unfold Quantity
  cases hlookup : List.lookup wholeKey d with
  | some value =>
      rw [hlookup] at h
      exact amount_of_unsigned h
  | none =>
      rw [hlookup] at h
      have hscaled : ((List.lookup scaledKey d).getD (.int 0)).scaledDecimal py.digitOf c.scale
          c.maximum "milliseconds" = .ok n := by
        rw [hscale]
        exact h
      exact amount_of_scaled hscaled

/-- A size of memory under one of two keys. -/
theorem quantity_of_memory {d : PyDict} {wholeKey scaledKey : String} {n : ℕ}
    (h : memoryValue py d wholeKey scaledKey = .ok n) :
    Quantity py d wholeKey scaledKey .memory n := by
  unfold memoryValue at h
  unfold Quantity
  cases hlookup : List.lookup wholeKey d with
  | some value =>
      rw [hlookup] at h
      exact amount_of_unsigned (c := .memory) h
  | none =>
      rw [hlookup] at h
      exact amount_of_scaled (c := .memory) h

/-- A quantity is within its limit, under whichever key it was given. -/
theorem Quantity.le {d : PyDict} {wholeKey scaledKey : String} {c : Conversion} {n : ℕ}
    (h : Quantity py d wholeKey scaledKey c n) : n ≤ c.maximum := by
  unfold Quantity at h
  cases hlookup : List.lookup wholeKey d with
  | some value =>
      rw [hlookup] at h
      exact h.le
  | none =>
      rw [hlookup] at h
      exact h.le

end

end FluidGateway.FluidLink
