import FluidGateway.SlotTable

/-!
# Runs of the slot table

`Sound` is what every step keeps, whoever makes it: a mutex is held by the
caller that stands under it, a flag is set for one caller, for a session, or
for good, and a session carries the handle of its slot and generation.
-/

namespace FluidGateway.Native

open Function

variable {κ : Type} [DecidableEq κ]

namespace Table

/-- The invariant of the table and its callers. -/
structure Sound (t : Table κ) : Prop where
  holds : ∀ c i, (t.pcs c).inside = some i → (t.slots i).holder = some c
  flagged : ∀ c i, (t.pcs c).flag = some i →
    (t.slots i).reserved = true ∧ (t.slots i).session = none
  single : ∀ c c' i, (t.pcs c).flag = some i → (t.pcs c').flag = some i → c = c'
  live : ∀ i, (t.slots i).session ≠ none → (t.slots i).reserved = true ∧
    0 < (t.slots i).generation ∧ (t.slots i).handle = slotHandle (t.slots i).generation i
  dead : ∀ i, (t.slots i).session = none → (t.slots i).handle = 0
  bounded : ∀ i, (t.slots i).generation ≤ generationLimit
  used : ∀ c i, t.pcs c = .exhausted i → (t.slots i).generation = generationLimit
  settled : ∀ i, (t.slots i).reserved = true → (t.slots i).session ≠ none ∨
    (t.slots i).generation = generationLimit ∨ ∃ c, (t.pcs c).flag = some i

omit [DecidableEq κ] in
/-- An empty table with idle callers is sound. -/
theorem sound_start : Sound (start : Table κ) := by
  constructor <;> simp [start, Pc.inside, Pc.flag]

variable {t t' : Table κ} {c : κ} {e : Option Event}

/-- The other callers stay where they are. -/
theorem pcs_goto_other {c' : κ} (h : c' ≠ c) (pc : Pc) : (t.goto c pc).pcs c' = t.pcs c' :=
  update_of_ne h _ _

/-- The caller is where it goes. -/
theorem pcs_goto_self (pc : Pc) : (t.goto c pc).pcs c = pc :=
  update_self _ _ _

/-- A caller that moves on without touching a slot keeps its mutex and its
flag, or hands the flag of a slot that is used up on for good. -/
theorem Sound.goto (h : t.Sound) {pc : Pc}
    (hinside : pc.inside = none ∨ pc.inside = (t.pcs c).inside)
    (hflag : pc.flag = (t.pcs c).flag ∨ pc.flag = none ∧
      ∀ i, (t.pcs c).flag = some i → (t.slots i).generation = generationLimit)
    (hused : ∀ i, pc = .exhausted i → (t.slots i).generation = generationLimit) :
    (t.goto c pc).Sound := by
  have hold : ∀ c' i, ((t.goto c pc).pcs c').flag = some i → (t.pcs c').flag = some i := by
    intro c' i hi
    by_cases hc : c' = c
    · subst hc
      rw [pcs_goto_self] at hi
      rcases hflag with hkept | ⟨hnone, -⟩
      · exact hkept.symm.trans hi
      · cases hnone.symm.trans hi
    · rwa [pcs_goto_other hc] at hi
  refine ⟨fun c' i hi => ?_, fun c' i hi => h.flagged c' i (hold c' i hi),
    fun c₁ c₂ i h₁ h₂ => h.single c₁ c₂ i (hold c₁ i h₁) (hold c₂ i h₂), h.live, h.dead,
    h.bounded, fun c' i hi => ?_, fun i hi => ?_⟩
  · by_cases hc : c' = c
    · subst hc
      rw [pcs_goto_self] at hi
      rcases hinside with hnone | hkept
      · cases hnone.symm.trans hi
      · exact h.holds c' i (hkept.symm.trans hi)
    · rw [pcs_goto_other hc] at hi
      exact h.holds c' i hi
  · by_cases hc : c' = c
    · subst hc
      rw [pcs_goto_self] at hi
      exact hused i hi
    · rw [pcs_goto_other hc] at hi
      exact h.used c' i hi
  · rcases h.settled i hi with hsession | hlimit | ⟨c', hc'⟩
    · exact .inl hsession
    · exact .inr (.inl hlimit)
    · by_cases hc : c' = c
      · subst hc
        rcases hflag with hkept | ⟨-, hlimit⟩
        · exact .inr (.inr ⟨c', by rw [pcs_goto_self, hkept, hc']⟩)
        · exact .inr (.inl (hlimit i hc'))
      · exact .inr (.inr ⟨c', by rw [pcs_goto_other hc, hc']⟩)

/-- What becomes of the mutex of the slot `i` when the caller `c` changes it. -/
inductive Locking (t : Table κ) (c : κ) (i : Fin maxSessions) (slot : Slot κ) (pc : Pc) : Prop
  | kept (hholder : slot.holder = (t.slots i).holder) (hpc : pc.inside = (t.pcs c).inside)
  | taken (hfree : (t.slots i).holder = none) (hholder : slot.holder = some c)
      (hpc : pc.inside = some i)
  | left (hold : (t.pcs c).inside = some i) (hpc : pc.inside = none)

/-- What becomes of its flag. -/
inductive Flagging (t : Table κ) (c : κ) (i : Fin maxSessions) (slot : Slot κ) (pc : Pc) : Prop
  | kept (hpc : pc.flag = (t.pcs c).flag) (hreserved : slot.reserved = (t.slots i).reserved)
      (hsession : slot.session = (t.slots i).session)
  | set (hfree : (t.slots i).reserved = false ∨ (t.slots i).session ≠ none)
      (hold : (t.pcs c).flag = none) (hpc : pc.flag = some i) (hreserved : slot.reserved = true)
      (hsession : slot.session = none)
  | handed (hold : (t.pcs c).flag = some i) (hpc : pc.flag = none)
      (hsettled : slot.reserved = true → slot.session ≠ none)
  | used (hlive : (t.slots i).session ≠ none) (hold : (t.pcs c).flag = none)
      (hpc : pc.flag = none) (hsession : slot.session ≠ none)

/-- The other callers stay where they are. -/
theorem pcs_put_other {c' : κ} (h : c' ≠ c) (i : Fin maxSessions) (slot : Slot κ) (pc : Pc) :
    (t.put c i slot pc).pcs c' = t.pcs c' :=
  update_of_ne h _ _

/-- The caller is where it goes. -/
theorem pcs_put_self (i : Fin maxSessions) (slot : Slot κ) (pc : Pc) :
    (t.put c i slot pc).pcs c = pc :=
  update_self _ _ _

/-- The other slots stay as they are. -/
theorem slots_put_other {i j : Fin maxSessions} (h : j ≠ i) (slot : Slot κ) (pc : Pc) :
    (t.put c i slot pc).slots j = t.slots j :=
  update_of_ne h _ _

/-- The slot is what is put there. -/
theorem slots_put_self (i : Fin maxSessions) (slot : Slot κ) (pc : Pc) :
    (t.put c i slot pc).slots i = slot :=
  update_self _ _ _

omit [DecidableEq κ] in
/-- Whoever is under the mutex of a slot is so alone. -/
theorem Sound.inside_unique (h : t.Sound) {c' : κ} {i : Fin maxSessions}
    (hc : (t.pcs c).inside = some i) (hc' : (t.pcs c').inside = some i) : c' = c :=
  Option.some.inj ((h.holds c' i hc').symm.trans (h.holds c i hc))

/-- Every caller under a mutex still holds it. -/
theorem Sound.put_holds (h : t.Sound) {i : Fin maxSessions} {slot : Slot κ} {pc : Pc}
    (hlock : Locking t c i slot pc) (c' : κ) (j : Fin maxSessions)
    (hj : ((t.put c i slot pc).pcs c').inside = some j) :
    ((t.put c i slot pc).slots j).holder = some c' := by
  have hkeep : ∀ c', (t.pcs c').inside = some j → (j = i → slot.holder = some c') →
      ((t.put c i slot pc).slots j).holder = some c' := by
    intro c' hold hown
    by_cases hji : j = i
    · subst hji
      rw [slots_put_self]
      exact hown rfl
    · rw [slots_put_other hji]
      exact h.holds c' j hold
  by_cases hc : c' = c
  · subst hc
    rw [pcs_put_self] at hj
    cases hlock with
    | kept hholder hpc =>
        have hold := hpc.symm.trans hj
        exact hkeep c' hold fun hji => by rw [hholder, ← hji, h.holds c' j hold]
    | taken _ hholder hpc =>
        obtain rfl := Option.some.inj (hpc.symm.trans hj)
        rw [slots_put_self, hholder]
    | left _ hpc => cases hpc.symm.trans hj
  · rw [pcs_put_other hc] at hj
    refine hkeep c' hj fun hji => ?_
    subst hji
    have hheld := h.holds c' j hj
    cases hlock with
    | kept hholder _ => rw [hholder, hheld]
    | taken hfree _ _ => cases hfree.symm.trans hheld
    | left hold _ => exact absurd (h.inside_unique hold hj) hc

/-- Who has a flag afterwards. -/
theorem Sound.put_flag (h : t.Sound) {i : Fin maxSessions} {slot : Slot κ} {pc : Pc}
    (hflagging : Flagging t c i slot pc) {c' : κ} {j : Fin maxSessions}
    (hj : ((t.put c i slot pc).pcs c').flag = some j) :
    (t.pcs c').flag = some j ∧ (j = i → slot.reserved = (t.slots i).reserved ∧
        slot.session = (t.slots i).session) ∨
      c' = c ∧ j = i ∧ slot.reserved = true ∧ slot.session = none ∧
        ∀ c', (t.pcs c').flag ≠ some i := by
  have hnone : (t.slots i).reserved = false ∨ (t.slots i).session ≠ none →
      ∀ c', (t.pcs c').flag ≠ some i := by
    intro hfree c' hc'
    obtain ⟨hreserved, hsession⟩ := h.flagged c' i hc'
    rcases hfree with hfree | hfree
    · rw [hreserved] at hfree
      cases hfree
    · exact hfree hsession
  by_cases hc : c' = c
  · subst hc
    rw [pcs_put_self] at hj
    cases hflagging with
    | kept hpc hreserved hsession =>
        exact .inl ⟨hpc.symm.trans hj, fun _ => ⟨hreserved, hsession⟩⟩
    | set hfree _ hpc hreserved hsession =>
        obtain rfl := Option.some.inj (hpc.symm.trans hj)
        exact .inr ⟨rfl, rfl, hreserved, hsession, hnone hfree⟩
    | handed _ hpc _ => cases hpc.symm.trans hj
    | used _ _ hpc _ => cases hpc.symm.trans hj
  · rw [pcs_put_other hc] at hj
    refine .inl ⟨hj, fun hji => ?_⟩
    subst hji
    cases hflagging with
    | kept _ hreserved hsession => exact ⟨hreserved, hsession⟩
    | set hfree _ _ _ _ => exact absurd hj (hnone hfree c')
    | handed hold _ _ => exact absurd (h.single c' c j hj hold) hc
    | used hlive _ _ _ => exact absurd hj (hnone (.inr hlive) c')

/-- A flag is still set for a session, for good or for a caller. -/
theorem Sound.put_settled (h : t.Sound) {i : Fin maxSessions} {slot : Slot κ} {pc : Pc}
    (hflagging : Flagging t c i slot pc)
    (hgeneration : slot.generation = (t.slots i).generation ∨ (t.pcs c).flag = some i)
    (j : Fin maxSessions) (hj : ((t.put c i slot pc).slots j).reserved = true) :
    ((t.put c i slot pc).slots j).session ≠ none ∨
      ((t.put c i slot pc).slots j).generation = generationLimit ∨
      ∃ c', ((t.put c i slot pc).pcs c').flag = some j := by
  -- a flag that somebody had is still there unless it was handed on
  have hstill : ∀ c', (t.pcs c').flag = some j → (c' = c → pc.flag = some j) →
      ∃ c', ((t.put c i slot pc).pcs c').flag = some j := by
    intro c' hc' hown
    by_cases hc : c' = c
    · exact ⟨c, by rw [pcs_put_self, hown hc]⟩
    · exact ⟨c', by rw [pcs_put_other hc, hc']⟩
  by_cases hji : j = i
  · subst hji
    rw [slots_put_self] at hj ⊢
    cases hflagging with
    | kept hpc hreserved hsession =>
        rw [hsession]
        rcases h.settled j (hreserved.symm.trans hj) with hlive | hlimit | ⟨c', hc'⟩
        · exact .inl hlive
        · rcases hgeneration with hsame | hown
          · exact .inr (.inl (hsame.trans hlimit))
          · exact .inr (.inr (hstill c hown fun _ => hpc.trans hown))
        · exact .inr (.inr (hstill c' hc' fun hc => by rw [hpc, ← hc, hc']))
    | set _ _ hpc _ _ => exact .inr (.inr ⟨c, by rw [pcs_put_self, hpc]⟩)
    | handed _ _ hsettled => exact .inl (hsettled hj)
    | used _ _ _ hsession => exact .inl hsession
  · rw [slots_put_other hji] at hj ⊢
    rcases h.settled j hj with hlive | hlimit | ⟨c', hc'⟩
    · exact .inl hlive
    · exact .inr (.inl hlimit)
    · refine .inr (.inr (hstill c' hc' fun hc => ?_))
      subst hc
      cases hflagging with
      | kept hpc _ _ => exact hpc.trans hc'
      | set _ hold _ _ _ => cases hold.symm.trans hc'
      | handed hold _ _ => exact absurd (Option.some.inj (hold.symm.trans hc')).symm hji
      | used _ hold _ _ => cases hold.symm.trans hc'

/-- A caller that changes a slot, under the rules of its mutex and its flag. -/
theorem Sound.change (h : t.Sound) {i : Fin maxSessions} {slot : Slot κ} {pc : Pc}
    (hlock : Locking t c i slot pc) (hflagging : Flagging t c i slot pc)
    (hlive : slot.session ≠ none → slot.reserved = true ∧ 0 < slot.generation ∧
      slot.handle = slotHandle slot.generation i)
    (hdead : slot.session = none → slot.handle = 0)
    (hgeneration : slot.generation = (t.slots i).generation ∨
      (t.pcs c).flag = some i ∧ (t.pcs c).inside = some i ∧ slot.generation ≤ generationLimit)
    (hused : ∀ j, pc ≠ .exhausted j) :
    (t.put c i slot pc).Sound := by
  have hslots : ∀ (P : Fin maxSessions → Slot κ → Prop), P i slot → (∀ j, P j (t.slots j)) →
      ∀ j, P j ((t.put c i slot pc).slots j) := by
    intro P hown hall j
    by_cases hji : j = i
    · subst hji
      rw [slots_put_self]
      exact hown
    · rw [slots_put_other hji]
      exact hall j
  refine ⟨h.put_holds hlock, fun c' j hj => ?_, fun c₁ c₂ j h₁ h₂ => ?_,
    hslots (fun j slot => slot.session ≠ none → slot.reserved = true ∧ 0 < slot.generation ∧
      slot.handle = slotHandle slot.generation j) hlive h.live,
    hslots (fun _ slot => slot.session = none → slot.handle = 0) hdead h.dead,
    hslots (fun _ slot => slot.generation ≤ generationLimit) ?_ h.bounded,
    fun c' j hj => ?_, h.put_settled hflagging (hgeneration.imp_right And.left)⟩
  · rcases h.put_flag hflagging hj with ⟨hold, hsame⟩ | ⟨-, rfl, hreserved, hsession, -⟩
    · by_cases hji : j = i
      · subst hji
        rw [slots_put_self, (hsame rfl).1, (hsame rfl).2]
        exact h.flagged c' j hold
      · rw [slots_put_other hji]
        exact h.flagged c' j hold
    · rw [slots_put_self]
      exact ⟨hreserved, hsession⟩
  · rcases h.put_flag hflagging h₁ with ⟨hold₁, -⟩ | ⟨hc₁, hji, -, -, hnone⟩ <;>
      rcases h.put_flag hflagging h₂ with ⟨hold₂, -⟩ | ⟨hc₂, hji', -, -, hnone'⟩
    · exact h.single c₁ c₂ j hold₁ hold₂
    · exact absurd (hji' ▸ hold₁) (hnone' c₁)
    · exact absurd (hji ▸ hold₂) (hnone c₂)
    · exact hc₁.trans hc₂.symm
  · rcases hgeneration with hsame | ⟨-, -, hle⟩
    · rw [hsame]
      exact h.bounded i
    · exact hle
  · by_cases hc : c' = c
    · subst hc
      rw [pcs_put_self] at hj
      exact absurd hj (hused j)
    · rw [pcs_put_other hc] at hj
      by_cases hji : j = i
      · subst hji
        rw [slots_put_self]
        rcases hgeneration with hsame | ⟨-, hinside, -⟩
        · exact hsame.trans (h.used c' j hj)
        · exact absurd (h.inside_unique hinside (by rw [hj]; rfl)) hc
      · rw [slots_put_other hji]
        exact h.used c' j hj

/-- A call that begins, or that is turned away at once, changes no slot. -/
theorem Sound.calls (h : t.Sound) (hpc : t.pcs c = .idle) (hcall : Calls t c e t') :
    t'.Sound := by
  cases hcall with
  | notCreated => exact h
  | refused => exact h
  | notExchanged => exact h
  | notMeasured => exact h
  | unmeasured => exact h
  | notDestroyed => exact h
  | _ => exact h.goto (.inl rfl) (.inl (by rw [hpc]; rfl)) (by simp)

/-! ### One step -/

/-- Every move of a caller keeps the table sound, case by case. -/
theorem Sound.moves (h : t.Sound) (hm : Moves t c (t.pcs c) e t') : t'.Sound := by
  generalize hpc : t.pcs c = pc at hm
  have hinside : (t.pcs c).inside = pc.inside := congrArg Pc.inside hpc
  have hflag : (t.pcs c).flag = pc.flag := congrArg Pc.flag hpc
  cases hm with
  | call hcall => exact h.calls hpc hcall
  | limit | taken | busy | uncalled | unentered | unprepared =>
      exact h.goto (.inl rfl) (.inl hflag.symm) (by simp)
  | exhaust hlimit =>
      refine h.goto (.inr hinside.symm) (.inr ⟨rfl, fun i hi => ?_⟩) fun i hi => ?_
      · obtain rfl := Option.some.inj (hflag.symm.trans hi)
        exact hlimit
      · obtain rfl := Pc.exhausted.inj hi
        exact hlimit
  | fail | unknown | stale => exact h.goto (.inr hinside.symm) (.inl hflag.symm) (by simp)
  | @reserve i hfree =>
      have hnone : (t.slots i).session = none := by
        by_contra hlive
        rw [(h.live i hlive).1] at hfree
        cases hfree
      exact h.change (.kept rfl hinside.symm) (.set (.inl hfree) hflag rfl rfl hnone)
        (fun hlive => absurd hnone hlive) (h.dead i) (.inl rfl) (by simp)
  | @prepare i hfree | @hold i _ hfree | @enter i _ hfree =>
      exact h.change (.taken hfree rfl rfl) (.kept hflag.symm rfl rfl) (h.live i) (h.dead i) (.inl rfl)
        (by simp)
  | @skip i | @unlock i | @leave i =>
      exact h.change (.left hinside rfl) (.kept hflag.symm rfl rfl) (h.live i) (h.dead i) (.inl rfl)
        (by simp)
  | @release i =>
      obtain ⟨-, hnone⟩ := h.flagged c i hflag
      exact h.change (.kept rfl hinside.symm) (.handed hflag rfl (by simp))
        (fun hlive => absurd hnone hlive) (h.dead i) (.inl rfl) (by simp)
  | @install i _ hlimit =>
      obtain ⟨hreserved, -⟩ := h.flagged c i hflag
      have hle : (t.slots i).generation + 1 ≤ generationLimit :=
        Nat.lt_of_le_of_ne (h.bounded i) hlimit
      exact h.change (.kept rfl hinside.symm) (.handed hflag rfl (by simp))
        (fun _ => ⟨hreserved, Nat.succ_pos _, rfl⟩) (by simp) (.inr ⟨hflag, hinside, hle⟩) (by simp)
  | @found i _ s _ hs =>
      have hlive : (t.slots i).session ≠ none := by simp [hs]
      exact h.change (.kept rfl hinside.symm) (.used hlive hflag rfl (by simp)) (fun _ => h.live i hlive)
        (by simp) (.inl rfl) (by simp)
  | @clear i _ _ hlive =>
      exact h.change (.kept rfl hinside.symm)
        (.set (.inr hlive) hflag rfl (h.live i hlive).1 rfl) (by simp) (by simp) (.inl rfl) (by simp)
  | @giveBack i =>
      obtain ⟨-, hnone⟩ := h.flagged c i hflag
      exact h.change (.kept rfl hinside.symm) (.handed hflag rfl (by simp))
        (fun hlive => absurd hnone hlive) (h.dead i) (.inl rfl) (by simp)

/-- Every step keeps the table sound, whoever makes it. -/
theorem Sound.step (h : t.Sound) (hstep : Step t e t') : t'.Sound := by
  obtain ⟨c, hm⟩ := hstep
  exact h.moves hm

omit [DecidableEq κ] in
/-- Only one slot answers to a handle. -/
theorem Sound.slot_unique (h : t.Sound) {i j : Fin maxSessions}
    (hi : (t.slots i).session ≠ none) (hj : (t.slots j).session ≠ none)
    (hsame : (t.slots i).handle = (t.slots j).handle) : i = j := by
  rw [(h.live i hi).2.2, (h.live j hj).2.2] at hsame
  exact (slotHandle_inj (h.bounded i) (h.bounded j) hsame).2

end Table

end FluidGateway.Native
