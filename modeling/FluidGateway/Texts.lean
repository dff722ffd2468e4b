import FluidGateway.NativeCore
import FluidGateway.RuntimeOptimizer
import FluidGateway.Lib.Utf8
import Mathlib.Data.List.DropRight

/-!
# The same texts in both engines

The native engine keeps the UTF-8 bytes of a name, the Python reference its
characters.  The bytes determine the name (`utf8_injective`), and both engines
find the same reasons transient, although one folds bytes in the C locale and
the other folds Unicode (`transient_iff`).
-/

namespace FluidGateway

open Native Native.State FluidGateway.Runtime

/-- The bytes that stand for a Python text in the native engine. -/
def utf8 (s : String) : Text :=
  Utf8.encode s.toList

/-- Different texts have different encodings. -/
theorem utf8_injective : Function.Injective utf8 := by
  intro a b h
  exact String.toList_injective (Utf8.encode_injective h)

/-- Two texts are encoded alike only if they are the same. -/
@[simp] theorem utf8_inj {a b : String} : utf8 a = utf8 b ↔ a = b :=
  utf8_injective.eq_iff

/-- The empty text is encoded as no bytes. -/
@[simp] theorem utf8_empty : utf8 "" = [] := rfl

/-- Only the empty text is encoded as no bytes. -/
@[simp] theorem utf8_eq_nil {a : String} : utf8 a = [] ↔ a = "" := by
  rw [← utf8_empty, utf8_inj]

/-- `str.isspace` of one character. -/
def isSpace (c : Char) : Bool :=
  let n := c.toNat
  (9 ≤ n && n ≤ 13) || (28 ≤ n && n ≤ 32) || n == 0x85 || n == 0xa0 || n == 0x1680 ||
    (0x2000 ≤ n && n ≤ 0x200a) || n == 0x2028 || n == 0x2029 || n == 0x202f || n == 0x205f ||
    n == 0x3000

/-- `str.strip`. -/
def strip (s : String) : String :=
  String.ofList ((s.toList.dropWhile isSpace).rdropWhile isSpace)

/-- Trimming drops the blanks at both ends. -/
theorem strip_toList (s : String) :
    (strip s).toList = (s.toList.dropWhile isSpace).rdropWhile isSpace :=
  String.toList_ofList

/-! ## Transient reasons -/

/-- A text whose occurrences case folding outside ASCII cannot touch. -/
structure Plain (t : List Char) : Prop where
  ascii : ∀ c ∈ t, c.val < 128
  noKelvin : 'k' ∉ t
  noDotted : t.getLast? ≠ some 'i'

/-- What follows the first character of a plain text is plain. -/
theorem Plain.tail {a : Char} {t : List Char} (h : Plain (a :: t)) : Plain t := by
  refine ⟨?_, ?_, ?_⟩
  · intro c hc
    exact h.ascii c (List.mem_cons_of_mem _ hc)
  · intro hk
    exact h.noKelvin (List.mem_cons_of_mem _ hk)
  · cases t with
    | nil => simp
    | cons b t => simpa using h.noDotted

/-- A text does not begin where its first character does not occur. -/
theorem not_prefix_append {α : Type} {a : α} {t block l : List α} (hne : block ≠ [])
    (h : a ∉ block) : ¬ a :: t <+: block ++ l := by
  cases block with
  | nil => exact absurd rfl hne
  | cons b block =>
      intro hp
      rw [List.cons_append, List.cons_prefix_cons] at hp
      exact h (hp.1 ▸ List.mem_cons_self)

/-- A character outside ASCII takes no part in an occurrence of a plain text
in the lower case. -/
theorem lower_skip {c a : Char} {block t l : List Char} (hlower : LowerOf c block)
    (hc : ¬ c.val < 128) (ht : Plain (a :: t)) :
    ¬ a :: t <+: block ++ l ∧ (a :: t <:+: block ++ l ↔ a :: t <:+: l) := by
  have hhead : a.val < 128 := ht.ascii a List.mem_cons_self
  have hskip : ∀ block : List Char, block ≠ [] → (∀ d ∈ block, 128 ≤ d.val) →
      ¬ a :: t <+: block ++ l ∧ (a :: t <:+: block ++ l ↔ a :: t <:+: l) := by
    intro block hne hblock
    have hnot : a ∉ block := fun hmem => absurd hhead (UInt32.not_lt.mpr (hblock a hmem))
    exact ⟨not_prefix_append hne hnot, Utf8.infix_append_iff hnot⟩
  unfold LowerOf at hlower
  rw [if_neg hc] at hlower
  split_ifs at hlower with hdotted hkelvin
  · -- the dot that follows the `i` is outside ASCII, so `i` can only be last
    have hdot : ∀ d ∈ [Char.ofNat 0x307], 128 ≤ d.val := by
      intro d hd
      rw [List.mem_singleton.mp hd]
      decide
    have hrest := hskip [Char.ofNat 0x307] (List.cons_ne_nil _ _) hdot
    have hnot : ¬ a :: t <+: block ++ l := by
      intro hp
      rw [hlower, List.cons_append, List.cons_prefix_cons] at hp
      obtain ⟨rfl, hp⟩ := hp
      cases t with
      | nil => exact ht.noDotted rfl
      | cons b t =>
          rw [List.cons_append, List.cons_prefix_cons] at hp
          have hb := ht.ascii b (by simp)
          rw [hp.1] at hb
          exact absurd hb (by decide)
    refine ⟨hnot, ?_⟩
    rw [hlower] at hnot ⊢
    rw [List.cons_append, List.infix_cons_iff, hrest.2]
    exact or_iff_right hnot
  · have hnot : a ∉ block := by
      rw [hlower, List.mem_singleton]
      intro hk
      exact ht.noKelvin (hk ▸ List.mem_cons_self)
    exact ⟨not_prefix_append (by rw [hlower]; exact List.cons_ne_nil _ _) hnot,
      Utf8.infix_append_iff hnot⟩
  · exact hskip block hlower.1 hlower.2

/-- The byte of an ASCII character. -/
def byte (c : Char) : UInt8 :=
  UInt8.ofNat c.toNat

/-- The byte of an ASCII character has its value. -/
theorem byte_toNat {c : Char} (h : c.val < 128) : (byte c).toNat = c.toNat := by
  have hlt : c.toNat < 128 := UInt32.lt_iff_toNat_lt.mp h
  simp [byte]
  omega

/-- Different ASCII characters have different bytes. -/
theorem byte_inj {a b : Char} (ha : a.val < 128) (hb : b.val < 128) (h : byte a = byte b) :
    a = b := by
  have hnat := congrArg UInt8.toNat h
  rw [byte_toNat ha, byte_toNat hb] at hnat
  exact Char.ext (UInt32.toNat_inj.mp hnat)

/-- The lower case of an ASCII character is one. -/
theorem toLower_ascii {c : Char} (h : c.val < 128) : c.toLower.val < 128 := by
  unfold Char.toLower
  split
  · rename_i hupper
    have hle : c.val.toNat ≤ 90 := UInt32.le_iff_toNat_le.mp hupper.2
    have hval : c.toNat = c.val.toNat := rfl
    rw [UInt32.lt_iff_toNat_lt]
    simp
    omega
  · exact h

/-- Folding the byte of an ASCII character folds the character. -/
theorem toLower_byte {c : Char} (h : c.val < 128) : State.toLower (byte c) = byte c.toLower := by
  have hlt : c.toNat < 128 := UInt32.lt_iff_toNat_lt.mp h
  have hval : c.val.toNat = c.toNat := rfl
  unfold State.toLower Char.toLower
  by_cases hupper : 65 ≤ c.toNat ∧ c.toNat ≤ 90
  · have hbyte : 65 ≤ byte c ∧ byte c ≤ 90 := by
      rw [UInt8.le_iff_toNat_le, UInt8.le_iff_toNat_le, byte_toNat h]
      exact hupper
    have hchar : c.val ≥ 'A'.val ∧ c.val ≤ 'Z'.val := by
      rw [ge_iff_le, UInt32.le_iff_toNat_le, UInt32.le_iff_toNat_le]
      exact hupper
    rw [if_pos hbyte, dif_pos hchar]
    have hupperVal : c.val.toNat ≤ 90 := hupper.2
    rw [← UInt8.toNat_inj, UInt8.toNat_add, byte_toNat h]
    unfold byte
    rw [UInt8.toNat_ofNat']
    have hfolded : (c.val + ('a'.val - 'A'.val)).toNat = c.toNat + 32 := by
      rw [UInt32.toNat_add, hval]
      simp
      omega
    change (c.toNat + 32) % 256 = (c.val + ('a'.val - 'A'.val)).toNat % 256
    rw [hfolded]
  · have hbyte : ¬ (65 ≤ byte c ∧ byte c ≤ 90) := by
      rw [UInt8.le_iff_toNat_le, UInt8.le_iff_toNat_le, byte_toNat h]
      exact hupper
    have hchar : ¬ (c.val ≥ 'A'.val ∧ c.val ≤ 'Z'.val) := by
      rw [ge_iff_le, UInt32.le_iff_toNat_le, UInt32.le_iff_toNat_le]
      exact hupper
    rw [if_neg hbyte, dif_neg hchar]

/-- The engine does not fold bytes outside ASCII. -/
theorem toLower_not_ascii {b : UInt8} (h : 128 ≤ b) : State.toLower b = b := by
  have hle : 128 ≤ b.toNat := UInt8.le_iff_toNat_le.mp h
  unfold State.toLower
  refine if_neg ?_
  intro hupper
  have : b.toNat ≤ 90 := UInt8.le_iff_toNat_le.mp hupper.2
  omega

/-- The folded bytes of a text. -/
def foldedBytes (cs : List Char) : Text :=
  (Utf8.encode cs).map State.toLower

/-- The engine folds an ASCII character to the byte of its lower case. -/
theorem foldedBytes_ascii {c : Char} (h : c.val < 128) (cs : List Char) :
    foldedBytes (c :: cs) = byte c.toLower :: foldedBytes cs := by
  unfold foldedBytes
  rw [Utf8.encode_cons, Utf8.encodeChar_ascii h, List.singleton_append, List.map_cons]
  exact congrArg (· :: _) (toLower_byte h)

/-- A character outside ASCII takes no part in an occurrence among the bytes. -/
theorem bytes_skip {c a : Char} {t : Text} (hc : ¬ c.val < 128) (ha : a.val < 128)
    (cs : List Char) :
    ¬ byte a :: t <+: foldedBytes (c :: cs) ∧
      (byte a :: t <:+: foldedBytes (c :: cs) ↔ byte a :: t <:+: foldedBytes cs) := by
  have hbytes := Utf8.encodeChar_not_ascii (UInt32.not_lt.mp hc)
  have hsplit : foldedBytes (c :: cs) =
      (String.utf8EncodeChar c).map State.toLower ++ foldedBytes cs := by
    unfold foldedBytes
    rw [Utf8.encode_cons, List.map_append]
  have hnot : byte a ∉ (String.utf8EncodeChar c).map State.toLower := by
    intro hmem
    obtain ⟨b, hb, heq⟩ := List.mem_map.mp hmem
    rw [toLower_not_ascii (hbytes b hb)] at heq
    have hle : 128 ≤ (byte a).toNat := heq ▸ UInt8.le_iff_toNat_le.mp (hbytes b hb)
    have hlt : a.toNat < 128 := UInt32.lt_iff_toNat_lt.mp ha
    rw [byte_toNat ha] at hle
    omega
  rw [hsplit]
  refine ⟨not_prefix_append ?_ hnot, Utf8.infix_append_iff hnot⟩
  simp [String.utf8EncodeChar_ne_nil]

/-- A plain text begins the lower case of a text exactly where its bytes begin what the
engine folds. The induction is on the characters of the text. -/
theorem prefix_iff {cs : List Char} {parts : List (List Char)}
    (h : List.Forall₂ LowerOf cs parts) {t : List Char} (ht : Plain t) :
    t <+: parts.flatten ↔ t.map byte <+: foldedBytes cs := by
  induction h generalizing t with
  | nil => cases t <;> simp [foldedBytes]
  | @cons c block cs parts hlower _ ih =>
      cases t with
      | nil => simp
      | cons a t =>
          have ha : a.val < 128 := ht.ascii a List.mem_cons_self
          rw [List.flatten_cons]
          by_cases hc : c.val < 128
          · unfold LowerOf at hlower
            rw [if_pos hc] at hlower
            rw [hlower, List.singleton_append, foldedBytes_ascii hc, List.map_cons,
              List.cons_prefix_cons, List.cons_prefix_cons, ih ht.tail]
            refine and_congr_left' ?_
            exact ⟨congrArg byte, byte_inj ha (toLower_ascii hc)⟩
          · exact iff_of_false (lower_skip hlower hc ht).1 (bytes_skip hc ha cs).1

/-- A plain text occurs in the lower case of a text exactly where its bytes occur in what
the engine folds. -/
theorem infix_iff {cs : List Char} {parts : List (List Char)}
    (h : List.Forall₂ LowerOf cs parts) {t : List Char} (ht : Plain t) :
    t <:+: parts.flatten ↔ t.map byte <:+: foldedBytes cs := by
  cases t with
  | nil => simp
  | cons a t =>
      have ha : a.val < 128 := ht.ascii a List.mem_cons_self
      induction h with
      | nil => simp [foldedBytes]
      | @cons c block cs parts hlower hrest ih =>
          have hrestIff : a :: t <:+: parts.flatten ↔ (a :: t).map byte <:+: foldedBytes cs := ih
          have hlead := prefix_iff (.cons hlower hrest) ht
          rw [List.flatten_cons] at hlead ⊢
          by_cases hc : c.val < 128
          · have hblock := hlower
            unfold LowerOf at hblock
            rw [if_pos hc] at hblock
            rw [hblock, List.singleton_append] at hlead ⊢
            rw [foldedBytes_ascii hc] at hlead ⊢
            rw [List.infix_cons_iff, hlead, hrestIff, List.map_cons, List.infix_cons_iff]
          · rw [(lower_skip hlower hc ht).2, hrestIff]
            exact (bytes_skip hc ha cs).2.symm

/-- A text is plain if the tests of its characters say so. -/
theorem plain_of_all {t : List Char} (hascii : t.all (fun c => decide (c.val < 128)) = true)
    (hkelvin : 'k' ∉ t) (hdotted : t.getLast? ≠ some 'i') : Plain t := by
  refine ⟨?_, hkelvin, hdotted⟩
  intro c hc
  exact of_decide_eq_true (List.all_eq_true.mp hascii c hc)

/-- The four words that make a reason transient are plain. -/
theorem plain_tokens : ∀ token ∈ ["transient", "scratch", "temporary", "staging"],
    Plain token.toList := by
  intro token htoken
  simp only [List.mem_cons, List.not_mem_nil, or_false] at htoken
  rcases htoken with rfl | rfl | rfl | rfl <;>
    exact plain_of_all (by decide) (by decide) (by decide)

/-- A literal of the engine is its characters as bytes. -/
theorem literal_eq (token : String) : literal token = token.toList.map byte := rfl

/-- **Both engines find the same reasons transient.** -/
theorem transient_iff (casing : Casing) (reason : String) :
    transient (utf8 reason) = true ↔ isTransientReason casing reason = true := by
  obtain ⟨parts, hflat, hparts⟩ := casing.blocks reason
  have htoken : ∀ token ∈ ["transient", "scratch", "temporary", "staging"],
      (literal token <:+: (utf8 reason).map State.toLower ↔
        token.toList <:+: (casing.lower reason).toList) := by
    intro token hmem
    rw [hflat, infix_iff hparts (plain_tokens token hmem), literal_eq]
    rfl
  unfold State.transient isTransientReason
  have hliterals : [literal "transient", literal "scratch", literal "temporary",
      literal "staging"] = ["transient", "scratch", "temporary", "staging"].map literal := by
    simp only [List.map_cons, List.map_nil]
  dsimp only
  rw [hliterals, List.any_map, List.any_eq_true, List.any_eq_true]
  simp only [Function.comp_apply, decide_eq_true_eq]
  refine exists_congr ?_
  intro token
  exact and_congr_right (htoken token)

end FluidGateway
