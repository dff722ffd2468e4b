import FluidGateway.ReferenceReading

/-!
# Python strings

A `str` is any sequence of code points, surrogates among them.  The texts of
the other modules are those without surrogates (`PyText.ofString`); they are
the ones that UTF-8 can encode (`encodeStrict_eq_some`).
-/

namespace FluidGateway.FluidLink

open Native (Bytes)

/-- A code point; Python's texts may hold surrogates. -/
abbrev CodePoint := Fin 0x110000

/-- A `str`. -/
abbrev PyText := List CodePoint

namespace CodePoint

/-- The code points that are no characters. -/
def isSurrogate (c : CodePoint) : Bool :=
  0xd800 ≤ c.val && c.val ≤ 0xdfff

/-- The character of a code point that is no surrogate. -/
def char? (c : CodePoint) : Option Char :=
  if isSurrogate c then none else some (Char.ofNat c.val)

/-- The code point of a character. -/
def ofChar (c : Char) : CodePoint :=
  ⟨c.toNat, Nat.lt_succ_of_le (Utf8Grammar.scalar_range c).1⟩

/-- No character is a surrogate. -/
@[simp] theorem isSurrogate_ofChar (c : Char) : isSurrogate (ofChar c) = false := by
  have hc := (Utf8Grammar.scalar_range c).2
  unfold isSurrogate ofChar
  rw [Bool.eq_false_iff]
  simpa using hc

/-- The code point of a character is read as that character. -/
@[simp] theorem char?_ofChar (c : Char) : char? (ofChar c) = some c := by
  rw [char?, isSurrogate_ofChar]
  simp [ofChar]

/-- A code point is read as a character exactly where it is that of the character. -/
theorem char?_eq_some {c : CodePoint} {d : Char} : char? c = some d ↔ c = ofChar d := by
  constructor
  · intro h
    unfold char? at h
    split_ifs at h with hc
    obtain ⟨e, he⟩ := Utf8Grammar.exists_char (n := c.val) (by
      simp only [isSurrogate, Bool.and_eq_true, decide_eq_true_eq] at hc
      omega)
    rw [← he, Char.ofNat_toNat] at h
    cases h
    exact Fin.ext he.symm
  · rintro rfl
    exact char?_ofChar d

/-- `str.isspace` of one code point. -/
def isSpace (c : CodePoint) : Bool :=
  (char? c).any FluidGateway.isSpace

end CodePoint

namespace PyText

/-- A text of characters as a `str`. -/
def ofString (s : String) : PyText :=
  s.toList.map CodePoint.ofChar

/-- The characters of a text without surrogates. -/
def chars? (t : PyText) : Option (List Char) :=
  t.mapM CodePoint.char?

/-- The text without surrogates that this one is. -/
def string? (t : PyText) : Option String :=
  t.chars?.map String.ofList

/-- `str.strip`. -/
def strip (t : PyText) : PyText :=
  (t.dropWhile CodePoint.isSpace).rdropWhile CodePoint.isSpace

/-- `str.encode("utf-8", errors="strict")`, or a `UnicodeEncodeError`. -/
def encodeStrict (t : PyText) : Option Bytes :=
  t.chars?.map Utf8.encode

/-- The text with a question mark for every surrogate. -/
def replaced (t : PyText) : List Char :=
  t.map fun c => (CodePoint.char? c).getD '?'

/-- `str.encode("utf-8", errors="replace")`. -/
def encodeReplace (t : PyText) : Bytes :=
  Utf8.encode t.replaced

/-- `first or second`. -/
def either (first : PyText) (second : String) : PyText :=
  if first = [] then ofString second else first

/-- A text made of characters is read as these. -/
theorem chars?_map (cs : List Char) : chars? (cs.map CodePoint.ofChar) = some cs := by
  induction cs with
  | nil => rfl
  | cons c cs ih =>
      unfold chars? at ih ⊢
      rw [List.map_cons, List.mapM_cons, CodePoint.char?_ofChar, ih]
      rfl

/-- A text is read as characters exactly where it is made of them. -/
theorem chars?_eq_some {t : PyText} {cs : List Char} :
    t.chars? = some cs ↔ t = cs.map CodePoint.ofChar := by
  constructor
  · intro h
    induction t generalizing cs with
    | nil =>
        cases h
        rfl
    | cons c t ih =>
        unfold chars? at h ih
        rw [List.mapM_cons] at h
        obtain ⟨d, hd, h⟩ := Option.bind_eq_some_iff.mp h
        obtain ⟨ds, hds, h⟩ := Option.bind_eq_some_iff.mp h
        cases h
        rw [CodePoint.char?_eq_some.mp hd, ih hds, List.map_cons]
  · rintro rfl
    exact chars?_map cs

/-- A text is read as a string exactly where it is that of the string. -/
theorem string?_eq_some {t : PyText} {s : String} : t.string? = some s ↔ t = ofString s := by
  unfold string?
  rw [Option.map_eq_some_iff]
  constructor
  · rintro ⟨cs, hcs, rfl⟩
    rw [chars?_eq_some.mp hcs, ofString, String.toList_ofList]
  · rintro rfl
    exact ⟨s.toList, chars?_map _, String.ofList_toList⟩

/-- A text made of a string is read as that string. -/
@[simp] theorem string?_ofString (s : String) : (ofString s).string? = some s :=
  string?_eq_some.mpr rfl

/-- Different strings make different texts. -/
theorem ofString_injective : Function.Injective ofString := by
  intro a b h
  have hsome := string?_ofString a
  rw [h, string?_ofString] at hsome
  exact (Option.some.inj hsome).symm

/-- Only the empty string makes the empty text. -/
@[simp] theorem ofString_eq_nil {s : String} : ofString s = [] ↔ s = "" := by
  unfold ofString
  rw [List.map_eq_nil_iff, String.toList_eq_nil_iff]

/-- A text is one without surrogates exactly when it has none. -/
theorem exists_string {t : PyText} :
    (∃ s, t = ofString s) ↔ ∀ c ∈ t, CodePoint.isSurrogate c = false := by
  constructor
  · rintro ⟨s, rfl⟩ c hc
    obtain ⟨d, -, rfl⟩ := List.mem_map.mp hc
    exact CodePoint.isSurrogate_ofChar d
  · intro h
    induction t with
    | nil => exact ⟨"", rfl⟩
    | cons c t ih =>
        obtain ⟨s, rfl⟩ := ih fun d hd => h d (List.mem_cons_of_mem _ hd)
        have hc : CodePoint.char? c = some (Char.ofNat c.val) := by
          rw [CodePoint.char?, h c List.mem_cons_self]
          rfl
        have hlist := String.toList_ofList (l := Char.ofNat c.val :: s.toList)
        refine ⟨String.ofList (Char.ofNat c.val :: s.toList), ?_⟩
        unfold ofString
        rw [hlist, List.map_cons, ← CodePoint.char?_eq_some.mp hc]

/-- **UTF-8 encodes the texts without surrogates, and no others.** -/
theorem encodeStrict_eq_some {t : PyText} {data : Bytes} :
    t.encodeStrict = some data ↔ ∃ s, t = ofString s ∧ data = utf8 s := by
  unfold encodeStrict
  rw [Option.map_eq_some_iff]
  constructor
  · rintro ⟨cs, hcs, rfl⟩
    have hlist : (String.ofList cs).toList = cs := String.toList_ofList
    refine ⟨String.ofList cs, ?_, ?_⟩
    · rw [chars?_eq_some.mp hcs, ofString, hlist]
    · rw [utf8, hlist]
  · rintro ⟨s, rfl, rfl⟩
    exact ⟨s.toList, chars?_map _, rfl⟩

/-- A text without surrogates is encoded in UTF-8. -/
@[simp] theorem encodeStrict_ofString (s : String) : (ofString s).encodeStrict = some (utf8 s) :=
  encodeStrict_eq_some.mpr ⟨s, rfl, rfl⟩

/-- Nothing is replaced in a text without surrogates. -/
theorem replaced_ofString (s : String) : (ofString s).replaced = s.toList := by
  unfold replaced ofString
  rw [List.map_map]
  have hid : (fun c => (CodePoint.char? c).getD '?') ∘ CodePoint.ofChar = id := by
    funext c
    rw [Function.comp_apply, CodePoint.char?_ofChar]
    rfl
  rw [hid, List.map_id]

/-- A text without surrogates is encoded the same with replacement as without. -/
@[simp] theorem encodeReplace_ofString (s : String) : (ofString s).encodeReplace = utf8 s := by
  rw [encodeReplace, replaced_ofString, utf8]

/-- Blanks are the same among characters and among code points. -/
theorem isSpace_ofChar (c : Char) : CodePoint.isSpace (CodePoint.ofChar c) = FluidGateway.isSpace c := by
  unfold CodePoint.isSpace
  rw [CodePoint.char?_ofChar]
  rfl

/-- Trimming before and after the change of representation is the same. -/
theorem strip_ofString (s : String) : (ofString s).strip = ofString (FluidGateway.strip s) := by
  have hspace : CodePoint.isSpace ∘ CodePoint.ofChar = FluidGateway.isSpace := funext isSpace_ofChar
  unfold strip ofString List.rdropWhile
  rw [List.dropWhile_map, hspace, ← List.map_reverse, List.dropWhile_map, hspace,
    ← List.map_reverse, strip_toList]
  rfl

/-- The choice between two texts is the same before and after. -/
theorem either_ofString (first second : String) :
    either (ofString first) second = ofString (textOr first second) := by
  unfold either textOr
  by_cases hfirst : first = ""
  · rw [if_pos (ofString_eq_nil.mpr hfirst), if_pos hfirst]
  · rw [if_neg (fun h => hfirst (ofString_eq_nil.mp h)), if_neg hfirst]

/-- A surrogate is no white space, so stripping keeps it. -/
theorem mem_strip {t : PyText} {c : CodePoint} (hc : CodePoint.isSurrogate c = true) :
    c ∈ t.strip ↔ c ∈ t := by
  have hspace : CodePoint.isSpace c = false := by
    rw [CodePoint.isSpace, CodePoint.char?, hc]
    rfl
  have hkeep : ∀ l : PyText, c ∈ l.dropWhile CodePoint.isSpace ↔ c ∈ l := by
    intro l
    induction l with
    | nil => rfl
    | cons d l ih =>
        rw [List.dropWhile_cons]
        split_ifs with hd
        · rw [ih, List.mem_cons]
          refine ⟨.inr, ?_⟩
          rintro (rfl | h)
          · rw [hspace] at hd
            cases hd
          · exact h
        · rfl
  unfold strip List.rdropWhile
  rw [List.mem_reverse, hkeep, List.mem_reverse, hkeep]

/-- What is left of a text begins with no white space. -/
theorem head_strip {t : PyText} {c : CodePoint} {rest : PyText} (h : t.strip = c :: rest) :
    CodePoint.isSpace c = false := by
  have hhead : ∀ l : PyText, ∀ d ∈ (l.dropWhile CodePoint.isSpace).head?,
      CodePoint.isSpace d = false := by
    intro l d hd
    have hnot := List.head?_dropWhile_not CodePoint.isSpace l
    rw [hd] at hnot
    simpa using hnot
  have hprefix : (c :: rest) <+: t.dropWhile CodePoint.isSpace := by
    rw [← h]
    exact List.rdropWhile_prefix _ _
  obtain ⟨rest', hrest⟩ := hprefix
  refine hhead t c ?_
  rw [← hrest]
  rfl

end PyText

end FluidGateway.FluidLink
