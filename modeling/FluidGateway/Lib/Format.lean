import FluidGateway.Lib.Reading

/-!
# Readers of a format

A format says which values there are and how each is written.  A reader is
exact for a format when it takes the spellings of the values from the front of
its input, and nothing else.  Exactness is kept by sequencing, when the whole
determines its parts (`Exact.bind`), and by repetition (`Exact.each`).
-/

namespace Reading

variable {ε β α γ ι : Type}

def Exact (p : Reader ε (List β) α) (valid : α → Prop) (write : α → List β) : Prop :=
  ∀ data a rest, p data = .ok (a, rest) ↔ valid a ∧ data = write a ++ rest

namespace Exact

variable {p q : Reader ε (List β) α} {valid valid' : α → Prop} {write write' : α → List β}

/-- What was written is read back, whatever follows. -/
theorem read (h : Exact p valid write) {a : α} (ha : valid a) (rest : List β) :
    p (write a ++ rest) = .ok (a, rest) :=
  (h _ _ _).mpr ⟨ha, rfl⟩

/-- What was written is read back, and the rest by what comes next. -/
theorem andThen {k : α → Reader ε (List β) γ} (h : Exact p valid write) {a : α} (ha : valid a)
    {rest : List β} {x : γ × List β} (hk : k a rest = .ok x) :
    (p >>= k) (write a ++ rest) = .ok x :=
  bind_eq_ok.mpr ⟨a, rest, h.read ha rest, hk⟩

theorem congr (h : Exact p valid write) (hvalid : ∀ a, valid a ↔ valid' a)
    (hwrite : ∀ a, valid' a → write a = write' a) : Exact p valid' write' := by
  intro data a rest
  rw [h data a rest, hvalid]
  refine and_congr_right fun ha => ?_
  rw [hwrite a ha]

theorem pure (a : α) : Exact (Pure.pure a : Reader ε (List β) α) (· = a) fun _ => [] := by
  intro data b rest
  rw [pure_eq_ok, Prod.mk.injEq, List.nil_append, eq_comm (a := rest)]

theorem fail (e : ε) : Exact (throw e : Reader ε (List β) α) (fun _ => False) fun _ => [] := by
  intro data a rest
  refine iff_of_false ?_ (fun h => h.1)
  intro h
  cases h

theorem require {c : Prop} [Decidable c] {e : ε} :
    Exact (Reading.require c e : Reader ε (List β) PUnit) (fun _ => c) fun _ => [] := by
  intro data a rest
  rw [require_eq_ok, Prod.mk.injEq, List.nil_append, eq_comm (a := rest)]
  exact and_congr_right fun _ => and_iff_right rfl

/-- A value is read whose part is the value that is read first. -/
theorem bind {k : α → Reader ε (List β) γ} {validRest : α → γ → Prop} {writeRest : α → γ → List β}
    (part : γ → α) (hp : Exact p valid write)
    (hk : ∀ a, valid a → Exact (k a) (validRest a) (writeRest a))
    (hpart : ∀ a c, valid a → validRest a c → part c = a) :
    Exact (p >>= k) (fun c => valid (part c) ∧ validRest (part c) c)
      (fun c => write (part c) ++ writeRest (part c) c) := by
  intro data c rest
  rw [bind_eq_ok]
  constructor
  · rintro ⟨a, middle, hread, hrest⟩
    obtain ⟨ha, rfl⟩ := (hp _ _ _).mp hread
    obtain ⟨hc, rfl⟩ := (hk a ha _ _ _).mp hrest
    obtain rfl := hpart a c ha hc
    exact ⟨⟨ha, hc⟩, (List.append_assoc _ _ _).symm⟩
  · rintro ⟨⟨ha, hc⟩, rfl⟩
    rw [List.append_assoc]
    exact ⟨part c, _, hp.read ha _, (hk _ ha).read hc _⟩

/-- A check before the rest is read. -/
theorem guard {c : Prop} [Decidable c] {e : ε} (hp : c → Exact p valid write) :
    Exact (Reading.require c e >>= fun _ => p) (fun a => c ∧ valid a) write := by
  have hbind := bind (fun _ : α => PUnit.unit) (require (c := c) (e := e) (β := β))
    (fun _ hc => hp hc) (fun _ _ _ _ => rfl)
  exact hbind.congr (fun _ => Iff.rfl) fun _ _ => List.nil_append _

/-- A check that holds is passed. -/
theorem passed {c : Prop} [Decidable c] {e : ε} (hc : c) {data : List β} {x : α × List β}
    (hp : p data = .ok x) : (Reading.require c e >>= fun _ => p) data = .ok x :=
  bind_eq_ok.mpr ⟨PUnit.unit, data, require_eq_ok.mpr ⟨hc, rfl⟩, hp⟩

theorem map {f : α → γ} (part : γ → α) (hp : Exact p valid write)
    (hpart : ∀ a, part (f a) = a) :
    Exact (f <$> p) (fun c => valid (part c) ∧ f (part c) = c) (fun c => write (part c)) := by
  rw [map_eq_pure_bind]
  have hbind := bind part hp (fun a _ => pure (f a)) (fun a c _ hc => hc ▸ hpart a)
  exact hbind.congr (fun c => and_congr_right fun _ => eq_comm) fun c _ => List.append_nil _

theorem ite {c : Prop} [Decidable c] (hp : c → Exact p valid write)
    (hq : ¬ c → Exact q valid' write') :
    Exact (if c then p else q) (fun a => if c then valid a else valid' a)
      (fun a => if c then write a else write' a) := by
  by_cases hc : c
  · simpa only [if_pos hc] using hp hc
  · simpa only [if_neg hc] using hq hc

theorem each {f : ι → Reader ε (List β) α} {valid : ι → α → Prop} {write : ι → α → List β}
    (h : ∀ i, Exact (f i) (valid i) (write i)) (is : List ι) :
    Exact (Reading.each f is) (List.Forall₂ valid is)
      (fun as => (List.zipWith write is as).flatten) := by
  induction is with
  | nil =>
      refine (pure []).congr (fun as => ?_) fun as _ => rfl
      rw [List.forall₂_nil_left_iff]
  | cons i is ih =>
      intro data as rest
      unfold Reading.each
      rw [bind_eq_ok]
      constructor
      · rintro ⟨a, middle, ha, hrest⟩
        obtain ⟨as', middle', has, hpure⟩ := bind_eq_ok.mp hrest
        cases pure_eq_ok.mp hpure
        obtain ⟨hvalid, rfl⟩ := (h i _ _ _).mp ha
        obtain ⟨hvalids, rfl⟩ := (ih _ _ _).mp has
        exact ⟨.cons hvalid hvalids, by simp⟩
      · rintro ⟨hvalid, rfl⟩
        cases hvalid with
        | @cons _ a _ as' ha has =>
            refine ⟨a, (List.zipWith write is as').flatten ++ rest, ?_, ?_⟩
            · change f i ((write i a ++ (List.zipWith write is as').flatten) ++ rest) = _
              rw [List.append_assoc]
              exact (h i).read ha _
            · exact bind_eq_ok.mpr ⟨as', rest, ih.read has _, rfl⟩

/-- A list of values of one format, of a length that is known. -/
theorem replicate (hp : Exact p valid write) (n : ℕ) :
    Exact (Reading.each (fun _ => p) (List.range n)) (fun as => as.length = n ∧ ∀ a ∈ as, valid a)
      (fun as => (as.map write).flatten) := by
  have hall : ∀ (is : List ℕ) (as : List α), List.Forall₂ (fun _ => valid) is as ↔
      as.length = is.length ∧ ∀ a ∈ as, valid a := by
    intro is
    induction is with
    | nil =>
        intro as
        rw [List.forall₂_nil_left_iff]
        constructor
        · rintro rfl
          simp
        · rintro ⟨hlength, -⟩
          exact List.length_eq_zero_iff.mp hlength
    | cons i is ih =>
        intro as
        cases as with
        | nil => simp
        | cons a as =>
            rw [List.forall₂_cons, ih, List.forall_mem_cons, List.length_cons, List.length_cons,
              Nat.add_right_cancel_iff]
            exact and_left_comm
  have hzip : ∀ (is : List ℕ) (as : List α), as.length = is.length →
      List.zipWith (fun _ => write) is as = as.map write := by
    intro is
    induction is with
    | nil =>
        intro as hlength
        rw [List.length_eq_zero_iff.mp hlength]
        rfl
    | cons i is ih =>
        intro as hlength
        cases as with
        | nil => cases hlength
        | cons a as =>
            rw [List.zipWith_cons_cons, List.map_cons,
              ih as (Nat.add_right_cancel_iff.mp hlength)]
  refine (each (fun _ => hp) (List.range n)).congr (fun as => ?_) fun as has => ?_
  · rw [hall, List.length_range]
  · rw [hzip _ _ (by rw [has.1, List.length_range])]

end Exact

/-! ## Codecs -/

/-- An encoder and a decoder are inverse when what was decoded is encoded again
to the same bytes, and what was encoded is decoded.  `arguments` says how a
value is given to the encoder. -/
structure Inverse {ε' : Type} (encode : ι → Except ε (List β)) (decode : List β → Except ε' α)
    (arguments : α → ι) : Prop where
  reencoded : ∀ {data : List β} {a : α}, decode data = .ok a → encode (arguments a) = .ok data
  accepted : ∀ {i : ι} {data : List β}, encode i = .ok data → ∃ a, decode data = .ok a

/-- Both are described by one format: the decoder returns a view of each value of
the format, and the encoder writes the value that its arguments mean. -/
theorem Inverse.of_format {ε' : Type} {encode : ι → Except ε (List β)}
    {decode : List β → Except ε' α} {arguments : α → ι} {valid : γ → Prop} {write : γ → List β}
    {view : γ → α} {means : ι → γ → Prop}
    (hdecode : ∀ data a, decode data = .ok a ↔ ∃ c, valid c ∧ a = view c ∧ data = write c)
    (hencode : ∀ i data, encode i = .ok data ↔ ∃ c, valid c ∧ means i c ∧ data = write c)
    (hmeans : ∀ c, valid c → means (arguments (view c)) c) : Inverse encode decode arguments := by
  constructor
  · intro data a hread
    obtain ⟨c, hc, rfl, rfl⟩ := (hdecode data a).mp hread
    exact (hencode _ _).mpr ⟨c, hc, hmeans c hc, rfl⟩
  · intro i data hwrite
    obtain ⟨c, hc, -, rfl⟩ := (hencode i data).mp hwrite
    exact ⟨view c, (hdecode _ _).mpr ⟨c, hc, rfl, rfl⟩⟩

end Reading
