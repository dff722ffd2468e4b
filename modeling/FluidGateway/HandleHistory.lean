import FluidGateway.SlotTableRuns

/-!
# The history of the handles

Every run of the slot table is a legal history of a registry: however the
callers interleave, a handle is handed out once and stands for one session
from then until it is destroyed (`handles_never_confused`).
-/

namespace FluidGateway.Native

variable {κ : Type} {t t' : Table κ} {c : κ} {e : Option Event}
  {log : List (Registry.Event Nat Session)}

/-- What an event means for the sessions behind the handles. -/
def Event.registry : Event → Option (Registry.Event Nat Session)
  | .created handle session => some (.opened handle session)
  | .notCreated _ => none
  | .exchanged call _ (some (s, t)) => some (.used call.handle s t)
  | .exchanged call answer none =>
    if answer.status = .invalidHandle then some (.refused call.handle) else none
  | .measured handle _ (some s) => some (.used handle s s)
  | .measured handle status none =>
    if status = .invalidHandle then some (.refused handle) else none
  | .destroyed handle status =>
    if status = .ok then some (.closed handle)
    else if status = .invalidHandle then some (.refused handle)
    else none

/-- What the log of the table says about handles. -/
def history (log : List Event) : List (Registry.Event Nat Session) :=
  log.filterMap Event.registry

/-- A call is refused for its arguments only. -/
theorem ExchangeCall.refusal_status {call : ExchangeCall} {answer : Exchanged}
    (h : call.refusal = some answer) :
    answer.status = .invalidArgument ∨ answer.status = .bufferTooSmall := by
  unfold refusal at h
  dsimp only at h
  split_ifs at h
  all_goals cases h
  all_goals simp

/-- A call that is refused for its arguments says nothing about its handle. -/
theorem Event.registry_refused {call : ExchangeCall} {answer : Exchanged}
    (h : call.refusal = some answer) : (Event.exchanged call answer none).registry = none := by
  have hstatus : answer.status ≠ .invalidHandle := by
    rcases ExchangeCall.refusal_status h with hstatus | hstatus <;> rw [hstatus] <;> decide
  exact if_neg hstatus

/-- A call that runs has used the session behind its handle. -/
theorem Use.registry_run (use : Use) (s : Session) :
    (use.run s).1.registry = some (.used use.handle s (use.run s).2) := by
  cases use <;> rfl

/-- A call that finds the handle and does not run says nothing about it. -/
theorem Use.registry_unmet (use : Use) {status : Status} (h : status ≠ .invalidHandle) :
    (use.unmet status).registry = none := by
  cases use <;> simp [Use.unmet, Event.registry, h]

/-- A call that does not find the handle says that it is refused. -/
theorem Use.registry_invalid (use : Use) :
    (use.unmet .invalidHandle).registry = some (.refused use.handle) := by
  cases use <;> rfl

namespace Table

/-- The slots hold what the history puts behind the handles. -/
structure Represents (t : Table κ) (log : List (Registry.Event Nat Session)) : Prop where
  legal : Registry.Legal log
  current : ∀ h s, Registry.current h log = some s ↔
    ∃ i, (t.slots i).handle = h ∧ (t.slots i).session = some s
  issued : ∀ h ∈ Registry.handedOut log, ∃ i, ∃ g ≤ (t.slots i).generation, h = slotHandle g i

namespace Represents

/-- An empty table represents the empty history. -/
theorem start : Represents (Table.start : Table κ) [] where
  legal := Registry.legal_nil
  current := by simp [Registry.current, Table.start]
  issued := by simp [Registry.handedOut]

/-- A step that leaves handles, sessions and generations alone. -/
theorem congr (h : t.Represents log)
    (hsame : ∀ i, (t'.slots i).handle = (t.slots i).handle ∧
      (t'.slots i).session = (t.slots i).session ∧
      (t'.slots i).generation = (t.slots i).generation) : t'.Represents log where
  legal := h.legal
  current := by
    intro k s
    rw [h.current k s]
    exact exists_congr fun i => by rw [(hsame i).1, (hsame i).2.1]
  issued := by
    intro k hk
    obtain ⟨i, g, hg, rfl⟩ := h.issued k hk
    exact ⟨i, g, by rw [(hsame i).2.2]; exact hg, rfl⟩

/-- A handle that no slot with a session has is behind nothing. -/
theorem current_none (h : t.Represents log) {k : Nat}
    (hnone : ∀ i, (t.slots i).handle = k → (t.slots i).session = none) :
    Registry.current k log = none := by
  rw [Option.eq_none_iff_forall_ne_some]
  intro s hs
  obtain ⟨i, hhandle, hsession⟩ := (h.current k s).mp hs
  rw [hnone i hhandle] at hsession
  cases hsession

/-- The issued handles stay below the generations of their slots. -/
theorem issued_append (h : t.Represents log) {e : Registry.Event Nat Session}
    (he : e.handedOut = none)
    (hkept : ∀ i, (t.slots i).generation ≤ (t'.slots i).generation) :
    ∀ k ∈ Registry.handedOut (log ++ [e]), ∃ i, ∃ g ≤ (t'.slots i).generation,
      k = slotHandle g i := by
  intro k hk
  rw [Registry.handedOut_append, List.mem_append] at hk
  rcases hk with hk | hk
  · obtain ⟨i, g, hg, rfl⟩ := h.issued k hk
    exact ⟨i, g, hg.trans (hkept i), rfl⟩
  · rw [Registry.handedOut, List.filterMap_cons_none he] at hk
    cases hk

/-- A handle is refused only when nothing is behind it. -/
theorem refused (h : t.Represents log) {k : Nat}
    (hnone : ∀ i, (t.slots i).handle = k → (t.slots i).session = none) :
    t.Represents (log ++ [.refused k]) where
  legal := h.legal.append (h.current_none hnone)
  current := by
    intro k' s
    rw [Registry.current_append]
    exact h.current k' s
  issued := h.issued_append rfl fun _ => le_rfl

/-- A new session under the next handle of its slot. -/
theorem opened (h : t.Represents log) (hsound : t.Sound) {i : Fin maxSessions} {session : Session}
    (hfree : (t.slots i).session = none) (hfresh : (t.slots i).generation < generationLimit)
    (hslot : (t'.slots i).handle = slotHandle ((t.slots i).generation + 1) i ∧
      (t'.slots i).session = some session ∧
      (t'.slots i).generation = (t.slots i).generation + 1)
    (hothers : ∀ j, j ≠ i → t'.slots j = t.slots j) :
    t'.Represents (log ++ [.opened (slotHandle ((t.slots i).generation + 1) i) session]) where
  legal := by
    refine h.legal.append ?_
    intro hissued
    obtain ⟨j, g, hg, hsame⟩ := h.issued _ hissued
    have hbound := hsound.bounded j
    obtain ⟨hgeneration, rfl⟩ := slotHandle_inj (by omega) (by omega) hsame
    omega
  current := by
    intro k s
    rw [Registry.current_append, Registry.Event.apply]
    constructor
    · intro hk
      split_ifs at hk with hsame
      · exact ⟨i, hslot.1.trans hsame, hslot.2.1.trans hk⟩
      · obtain ⟨j, hhandle, hsession⟩ := (h.current k s).mp hk
        have hne : j ≠ i := by
          rintro rfl
          rw [hfree] at hsession
          cases hsession
        exact ⟨j, by rw [hothers j hne]; exact hhandle, by rw [hothers j hne]; exact hsession⟩
    · intro hk
      obtain ⟨j, hhandle, hsession⟩ := hk
      by_cases hj : j = i
      · subst hj
        rw [if_pos (hslot.1.symm.trans hhandle), ← hslot.2.1]
        exact hsession
      · rw [hothers j hj] at hhandle hsession
        have hlive := hsound.live j (by rw [hsession]; exact Option.some_ne_none s)
        have hbound := hsound.bounded j
        rw [if_neg]
        · exact (h.current k s).mpr ⟨j, hhandle, hsession⟩
        · intro hsame
          rw [← hhandle, hlive.2.2] at hsame
          exact hj (slotHandle_inj (by omega) hbound hsame).2.symm
  issued := by
    intro k hk
    rw [Registry.handedOut_append, List.mem_append] at hk
    rcases hk with hk | hk
    · obtain ⟨j, g, hg, rfl⟩ := h.issued k hk
      refine ⟨j, g, ?_, rfl⟩
      by_cases hj : j = i
      · subst hj
        omega
      · rw [hothers j hj]
        exact hg
    · rw [show k = _ from List.mem_singleton.mp hk]
      exact ⟨i, _, le_of_eq hslot.2.2.symm, rfl⟩

/-- A session is used under its handle. -/
theorem used (h : t.Represents log) (hsound : t.Sound) {i : Fin maxSessions} {k : Nat}
    {before after : Session} (hhandle : (t.slots i).handle = k)
    (hbefore : (t.slots i).session = some before)
    (hslot : (t'.slots i).handle = (t.slots i).handle ∧ (t'.slots i).session = some after ∧
      (t'.slots i).generation = (t.slots i).generation)
    (hothers : ∀ j, j ≠ i → t'.slots j = t.slots j) :
    t'.Represents (log ++ [.used k before after]) where
  legal := h.legal.append ((h.current k before).mpr ⟨i, hhandle, hbefore⟩)
  current := by
    intro k' s
    have hmet : (t.slots i).session ≠ none := by
      rw [hbefore]
      exact Option.some_ne_none before
    rw [Registry.current_append, Registry.Event.apply]
    constructor
    · intro hk
      split_ifs at hk with hsame
      · exact ⟨i, (hslot.1.trans hhandle).trans hsame, hslot.2.1.trans hk⟩
      · obtain ⟨j, hj, hsession⟩ := (h.current k' s).mp hk
        have hne : j ≠ i := by
          rintro rfl
          exact hsame (hhandle.symm.trans hj)
        exact ⟨j, by rw [hothers j hne]; exact hj, by rw [hothers j hne]; exact hsession⟩
    · intro hk
      obtain ⟨j, hj, hsession⟩ := hk
      by_cases hji : j = i
      · subst hji
        rw [if_pos ((hhandle.symm.trans hslot.1.symm).trans hj), ← hslot.2.1]
        exact hsession
      · rw [hothers j hji] at hj hsession
        rw [if_neg]
        · exact (h.current k' s).mpr ⟨j, hj, hsession⟩
        · intro hsame
          refine hji (hsound.slot_unique ?_ hmet (hj.trans (hhandle.trans hsame).symm))
          rw [hsession]
          exact Option.some_ne_none s
  issued := by
    refine h.issued_append rfl fun j => ?_
    by_cases hj : j = i
    · rw [hj, hslot.2.2]
    · rw [hothers j hj]

/-- A session is destroyed under its handle. -/
theorem closed (h : t.Represents log) (hsound : t.Sound) {i : Fin maxSessions} {k : Nat}
    (hhandle : (t.slots i).handle = k) (hmet : (t.slots i).session ≠ none)
    (hslot : (t'.slots i).session = none ∧ (t'.slots i).generation = (t.slots i).generation)
    (hothers : ∀ j, j ≠ i → t'.slots j = t.slots j) :
    t'.Represents (log ++ [.closed k]) where
  legal := by
    obtain ⟨s, hs⟩ := Option.ne_none_iff_exists'.mp hmet
    refine h.legal.append ?_
    rw [Registry.Allowed, (h.current k s).mpr ⟨i, hhandle, hs⟩]
    exact Option.some_ne_none s
  current := by
    intro k' s
    rw [Registry.current_append, Registry.Event.apply]
    constructor
    · intro hk
      split_ifs at hk with hsame
      obtain ⟨j, hj, hsession⟩ := (h.current k' s).mp hk
      have hne : j ≠ i := by
        rintro rfl
        exact hsame (hhandle.symm.trans hj)
      exact ⟨j, by rw [hothers j hne]; exact hj, by rw [hothers j hne]; exact hsession⟩
    · intro hk
      obtain ⟨j, hj, hsession⟩ := hk
      by_cases hji : j = i
      · subst hji
        rw [hslot.1] at hsession
        cases hsession
      · rw [hothers j hji] at hj hsession
        rw [if_neg]
        · exact (h.current k' s).mpr ⟨j, hj, hsession⟩
        · intro hsame
          refine hji (hsound.slot_unique ?_ hmet (hj.trans (hhandle.trans hsame).symm))
          rw [hsession]
          exact Option.some_ne_none s
  issued := by
    refine h.issued_append rfl fun j => ?_
    by_cases hj : j = i
    · rw [hj, hslot.2]
    · rw [hothers j hj]

end Represents

/-- One event more says at most one thing about handles. -/
theorem history_append (log : List Event) (e : Option Event) :
    history (log ++ e.toList) = history log ++ (e.bind Event.registry).toList := by
  unfold history
  rw [List.filterMap_append]
  cases e with
  | none => rfl
  | some e =>
      rw [Option.toList_some, Option.bind_some]
      cases he : e.registry with
      | none => rw [List.filterMap_cons_none he]; rfl
      | some e' => rw [List.filterMap_cons_some he]; rfl


/-- A handle that no slot answers to has no session. -/
theorem Sound.findSlot_none (h : t.Sound) {k : Nat} (hk : findSlot k = none) :
    ∀ i, (t.slots i).handle = k → (t.slots i).session = none := by
  intro i hhandle
  by_contra hmet
  have hslot := findSlot_slotHandle (h.bounded i) i
  rw [← (h.live i hmet).2.2, hhandle, hk] at hslot
  cases hslot

/-- A handle is looked for in the only slot that may answer to it. -/
theorem Sound.not_met (h : t.Sound) {k : Nat} {i : Fin maxSessions} (hi : findSlot k = some i)
    (hnot : (t.slots i).handle ≠ k ∨ (t.slots i).session = none) :
    ∀ j, (t.slots j).handle = k → (t.slots j).session = none := by
  intro j hhandle
  by_contra hmet
  have hslot := findSlot_slotHandle (h.bounded j) j
  rw [← (h.live j hmet).2.2, hhandle, hi] at hslot
  cases hslot
  rcases hnot with hnot | hnot
  · exact hnot hhandle
  · exact hmet hnot

end Table

/-- The slot in which a caller looks for a handle. -/
def Pc.sought : Pc → Option (Fin maxSessions × Nat)
  | .calling i use | .holding i use => some (i, use.handle)
  | .closing i handle | .entered i handle => some (i, handle)
  | _ => none

namespace Table

variable [DecidableEq κ]

/-- Handles are looked for where they can be. -/
def Sought (t : Table κ) : Prop :=
  ∀ c i k, (t.pcs c).sought = some (i, k) → findSlot k = some i

/-- A thread that goes on may look only where its handle can be. -/
theorem Sought.update (h : t.Sought) (pc : Pc)
    (hpc : ∀ i k, pc.sought = some (i, k) → findSlot k = some i)
    (ht : t'.pcs = Function.update t.pcs c pc) : t'.Sought := by
  intro c' i k hsought
  rw [ht, Function.update_apply] at hsought
  split_ifs at hsought
  · exact hpc i k hsought
  · exact h c' i k hsought

/-- Every step keeps it so that handles are looked for where they can be; the cases are the
moves that begin a search. -/
theorem Sought.step (h : t.Sought) (hstep : Step t e t') : t'.Sought := by
  obtain ⟨c, hmove⟩ := hstep
  have hkeep := h c
  generalize t.pcs c = pc at hmove hkeep
  have hfound : ∀ {k : Nat} {i : Fin maxSessions}, findSlot k = some i →
      ∀ j k', some (i, k) = some (j, k') → findSlot k' = some j := by
    rintro k i hi j k' ⟨⟩
    exact hi
  cases hmove with
  | call hcall =>
      cases hcall with
      | create => exact h.update _ (by simp [Pc.sought]) rfl
      | exchange _ hi => exact h.update (.calling _ (.exchange _)) (hfound hi) rfl
      | metrics hi => exact h.update (.calling _ (.metrics _)) (hfound hi) rfl
      | destroy hi => exact h.update (.closing _ _) (hfound hi) rfl
      | _ => exact h
  | hold => exact h.update (.holding _ _) hkeep rfl
  | enter => exact h.update (.entered _ _) hkeep rfl
  | _ => exact h.update _ (by simp [Pc.sought]) rfl

/-- **Every step goes on with the history.** -/
theorem Represents.step (h : t.Represents log) (hsound : t.Sound) (hsought : t.Sought)
    (hstep : Step t e t') : t'.Represents (log ++ (e.bind Event.registry).toList) := by
  obtain ⟨c, hmove⟩ := hstep
  have hsame : t.Represents (log ++ (none : Option (Registry.Event Nat Session)).toList) := by
    rw [Option.toList_none, List.append_nil]
    exact h
  have hquiet : ∀ {u : Table κ}, (∀ i, (u.slots i).handle = (t.slots i).handle ∧
      (u.slots i).session = (t.slots i).session ∧
      (u.slots i).generation = (t.slots i).generation) →
      u.Represents (log ++ (none : Option (Registry.Event Nat Session)).toList) := fun hu =>
    hsame.congr hu
  have hput : ∀ {i : Fin maxSessions} {slot : Slot κ} {pc : Pc},
      slot.handle = (t.slots i).handle → slot.session = (t.slots i).session →
      slot.generation = (t.slots i).generation →
      ∀ j, ((t.put c i slot pc).slots j).handle = (t.slots j).handle ∧
        ((t.put c i slot pc).slots j).session = (t.slots j).session ∧
        ((t.put c i slot pc).slots j).generation = (t.slots j).generation := by
    intro i slot pc hhandle hsession hgeneration j
    by_cases hj : j = i
    · subst hj
      simp [put, hhandle, hsession, hgeneration]
    · simp [put, hj]
  generalize hpc : t.pcs c = pc at hmove
  cases hmove with
  | call hcall =>
      cases hcall with
      | notCreated => exact hsame
      | create => exact hquiet fun _ => ⟨rfl, rfl, rfl⟩
      | refused hrefusal =>
          rw [Option.bind_some, Event.registry_refused hrefusal]
          exact hsame
      | exchange => exact hquiet fun _ => ⟨rfl, rfl, rfl⟩
      | notExchanged _ hi => exact h.refused (hsound.findSlot_none hi)
      | notMeasured => exact hsame
      | metrics => exact hquiet fun _ => ⟨rfl, rfl, rfl⟩
      | unmeasured hi => exact h.refused (hsound.findSlot_none hi)
      | destroy => exact hquiet fun _ => ⟨rfl, rfl, rfl⟩
      | notDestroyed hi => exact h.refused (hsound.findSlot_none hi)
  | limit => exact hquiet fun _ => ⟨rfl, rfl, rfl⟩
  | taken => exact hquiet fun _ => ⟨rfl, rfl, rfl⟩
  | reserve => exact hquiet (hput rfl rfl rfl)
  | prepare => exact hquiet (hput rfl rfl rfl)
  | unprepared => exact hquiet fun _ => ⟨rfl, rfl, rfl⟩
  | exhaust => exact hquiet fun _ => ⟨rfl, rfl, rfl⟩
  | skip => exact hquiet (hput rfl rfl rfl)
  | fail => exact hquiet fun _ => ⟨rfl, rfl, rfl⟩
  | unlock => exact hquiet (hput rfl rfl rfl)
  | release => exact hquiet (hput rfl rfl rfl)
  | @install i random hfresh =>
      have hfree : (t.slots i).session = none := (hsound.flagged c i (by rw [hpc]; rfl)).2
      have hbound := hsound.bounded i
      refine h.opened hsound hfree (by omega) ?_ ?_
      · simp [put]
      · intro j hj
        simp [put, hj]
  | busy =>
      rw [Option.bind_some, Use.registry_unmet _ (by decide)]
      exact hquiet fun _ => ⟨rfl, rfl, rfl⟩
  | uncalled =>
      rw [Option.bind_some, Use.registry_unmet _ (by decide)]
      exact hquiet fun _ => ⟨rfl, rfl, rfl⟩
  | hold => exact hquiet (hput rfl rfl rfl)
  | @unknown i use hnot =>
      have hi := hsought c i use.handle (by rw [hpc]; rfl)
      rw [Option.bind_some, Use.registry_invalid]
      exact (h.refused (hsound.not_met hi hnot)).congr fun _ => ⟨rfl, rfl, rfl⟩
  | @found i use s hhandle hs =>
      rw [Option.bind_some, Use.registry_run]
      refine h.used hsound hhandle hs ?_ ?_
      · simp [put]
      · intro j hj
        simp [put, hj]
  | enter => exact hquiet (hput rfl rfl rfl)
  | unentered => exact hquiet fun _ => ⟨rfl, rfl, rfl⟩
  | @stale i k hnot =>
      have hi := hsought c i k (by rw [hpc]; rfl)
      exact (h.refused (hsound.not_met hi hnot)).congr fun _ => ⟨rfl, rfl, rfl⟩
  | @clear i k hhandle hmet =>
      refine h.closed hsound hhandle hmet ?_ ?_
      · simp [put]
      · intro j hj
        simp [put, hj]
  | giveBack => exact hquiet (hput rfl rfl rfl)
  | leave => exact hquiet (hput rfl rfl rfl)

/-- What holds in every state that the callers can reach. -/
structure Reached (t : Table κ) (log : List Event) : Prop where
  sound : t.Sound
  sought : t.Sought
  represents : t.Represents (history log)

/-- Every table that is reached represents its history, by induction on the steps. -/
theorem reached_of_steps {log : List Event} (h : Steps start log t) : t.Reached log := by
  induction h with
  | refl =>
      exact ⟨sound_start, by simp [Sought, start, Pc.sought], .start⟩
  | step _ hstep ih =>
      obtain ⟨hsound, hsought, hrepresents⟩ := ih
      refine ⟨hsound.step hstep, hsought.step hstep, ?_⟩
      rw [history_append]
      exact hrepresents.step hsound hsought hstep

omit [DecidableEq κ] in
/-- No more handles are live than there are slots, since each has a slot of its own. -/
theorem Represents.live_length (h : t.Represents log) :
    (Registry.live log).length ≤ maxSessions := by
  have hnodup : (Registry.live log).Nodup := h.legal.nodup_handedOut.filter _
  have hsub : Registry.live log ⊆ (List.finRange maxSessions).map fun i => (t.slots i).handle := by
    intro k hk
    obtain ⟨s, hs⟩ := Option.isSome_iff_exists.mp (List.mem_filter.mp hk).2
    obtain ⟨i, hhandle, _⟩ := (h.current k s).mp hs
    exact List.mem_map.mpr ⟨i, List.mem_finRange i, hhandle⟩
  have hlength := (hnodup.subperm hsub).length_le
  rwa [List.length_map, List.length_finRange] at hlength

end Table

/-! ## What the callers are told -/

/-- The handle for which a caller is told that all went well. -/
def Event.granted : Event → Option Nat
  | .exchanged call answer _ => if answer.status = .ok then some call.handle else none
  | .measured handle status _ => if status = .ok then some handle else none
  | .destroyed handle status => if status = .ok then some handle else none
  | _ => none

/-- An event tells what was done. -/
def Event.Honest : Event → Prop
  | .exchanged call answer (some (s, t)) => call.refusal = none ∧ s.exchange call = (answer, t)
  | .exchanged call answer none => call.refusal = some answer ∨ call.refusal = none ∧
    ∃ status, answer = { status } ∧
      (status = .invalidHandle ∨ status = .busy ∨ status = .internalError)
  | .measured _ status none => status ≠ .ok
  | _ => True

/-- A use is honest, whether it meets a session or not. -/
theorem Use.honest_unmet (use : Use) {status : Status}
    (huse : ∀ call, use = .exchange call → call.refusal = none)
    (h : status = .invalidHandle ∨ status = .busy ∨ status = .internalError) :
    (use.unmet status).Honest := by
  cases use with
  | exchange call => exact .inr ⟨huse call rfl, status, rfl, h⟩
  | metrics handle => exact show status ≠ .ok by rcases h with rfl | rfl | rfl <;> decide

/-- The event of a call that runs tells what the session did. -/
theorem Use.honest_run (use : Use) (s : Session)
    (huse : ∀ call, use = .exchange call → call.refusal = none) : (use.run s).1.Honest := by
  cases use with
  | exchange call => exact ⟨huse call rfl, rfl⟩
  | metrics handle => trivial

/-- What a caller is granted is a use or the end of a session. -/
theorem Event.Honest.granted {e : Event} (h : e.Honest) {k : Nat} (hk : e.granted = some k) :
    (∃ s t, e.registry = some (.used k s t)) ∨ e.registry = some (.closed k) := by
  cases e with
  | created => cases hk
  | notCreated => cases hk
  | exchanged call answer found =>
      simp only [Event.granted] at hk
      split_ifs at hk with hok
      cases hk
      cases found with
      | some pair => exact .inl ⟨pair.1, pair.2, rfl⟩
      | none =>
          exfalso
          rcases h with hrefusal | ⟨_, status, rfl, hstatus⟩
          · rcases ExchangeCall.refusal_status hrefusal with hstatus | hstatus
            · rw [hok] at hstatus
              cases hstatus
            · rw [hok] at hstatus
              cases hstatus
          · have hok' : status = .ok := hok
            rcases hstatus with rfl | rfl | rfl <;> cases hok'
  | measured handle status found =>
      simp only [Event.granted] at hk
      split_ifs at hk with hok
      cases hk
      cases found with
      | some s => exact .inl ⟨s, s, rfl⟩
      | none => exact absurd hok h
  | destroyed handle status =>
      simp only [Event.granted] at hk
      split_ifs at hk with hok
      cases hk
      exact .inr (if_pos hok)

namespace Table

/-- The exchanges under way have passed the checks of their arguments. -/
def Checked (t : Table κ) : Prop :=
  ∀ c i call, t.pcs c = .calling i (.exchange call) ∨ t.pcs c = .holding i (.exchange call) →
    call.refusal = none

variable [DecidableEq κ]

/-- A thread that goes on to an exchange must have passed the checks. -/
theorem Checked.update (h : t.Checked) (pc : Pc)
    (hpc : ∀ i call, pc = .calling i (.exchange call) ∨ pc = .holding i (.exchange call) →
      call.refusal = none)
    (ht : t'.pcs = Function.update t.pcs c pc) : t'.Checked := by
  intro c' i call hcall
  rw [ht, Function.update_apply] at hcall
  split_ifs at hcall
  · exact hpc i call hcall
  · exact h c' i call hcall

/-- Every step keeps the checks passed and tells what was done; an exchange runs with the
session that the slot held. -/
theorem Checked.step (h : t.Checked) (hstep : Step t e t') :
    t'.Checked ∧ ∀ e' ∈ e, e'.Honest := by
  obtain ⟨c, hmove⟩ := hstep
  have hkeep := h c
  generalize t.pcs c = pc at hmove hkeep
  cases hmove with
  | call hcall =>
      cases hcall with
      | notCreated => exact ⟨h, by simp [Event.Honest]⟩
      | create => exact ⟨h.update _ (by simp) rfl, by simp⟩
      | refused hrefusal => exact ⟨h, by simpa [Event.Honest] using .inl hrefusal⟩
      | exchange hrefusal => exact ⟨h.update _ (by simpa using hrefusal) rfl, by simp⟩
      | notExchanged hrefusal =>
          refine ⟨h, ?_⟩
          simpa [Event.Honest, Use.unmet] using .inr hrefusal
      | notMeasured => exact ⟨h, by simp [Event.Honest, Use.unmet]⟩
      | metrics => exact ⟨h.update _ (by simp) rfl, by simp⟩
      | unmeasured => exact ⟨h, by simp [Event.Honest, Use.unmet]⟩
      | destroy => exact ⟨h.update _ (by simp) rfl, by simp⟩
      | notDestroyed => exact ⟨h, by simp [Event.Honest]⟩
  | @busy i use =>
      have huse : ∀ call, use = .exchange call → call.refusal = none := by
        rintro call rfl
        exact hkeep i call (.inl rfl)
      refine ⟨h.update _ (by simp) rfl, ?_⟩
      simpa using use.honest_unmet huse (.inr (.inl rfl))
  | @uncalled i use =>
      have huse : ∀ call, use = .exchange call → call.refusal = none := by
        rintro call rfl
        exact hkeep i call (.inl rfl)
      refine ⟨h.update _ (by simp) rfl, ?_⟩
      simpa using use.honest_unmet huse (.inr (.inr rfl))
  | @hold i use =>
      refine ⟨h.update (.holding i use) ?_ rfl, by simp⟩
      intro j call hcall
      rcases hcall with hcall | hcall
      · cases hcall
      · obtain ⟨rfl, rfl⟩ := Pc.holding.inj hcall
        exact hkeep i call (.inl rfl)
  | @unknown i use =>
      have huse : ∀ call, use = .exchange call → call.refusal = none := by
        rintro call rfl
        exact hkeep i call (.inr rfl)
      refine ⟨h.update _ (by simp) rfl, ?_⟩
      simpa using use.honest_unmet huse (.inl rfl)
  | @found i use s =>
      have huse : ∀ call, use = .exchange call → call.refusal = none := by
        rintro call rfl
        exact hkeep i call (.inr rfl)
      refine ⟨h.update _ (by simp) rfl, ?_⟩
      simpa using use.honest_run s huse
  | _ => exact ⟨h.update _ (by simp) rfl, by simp [Event.Honest]⟩

/-- Every log tells what was done, by induction on the steps. -/
theorem honest_of_steps {log : List Event} (h : Steps start log t) :
    t.Checked ∧ ∀ e ∈ log, e.Honest := by
  induction h with
  | refl => exact ⟨by simp [Checked, start], by simp⟩
  | @step t t' log e _ hstep ih =>
      obtain ⟨hchecked, hhonest⟩ := ih
      obtain ⟨hchecked', hlast⟩ := hchecked.step hstep
      refine ⟨hchecked', ?_⟩
      intro e' he'
      rcases List.mem_append.mp he' with he' | he'
      · exact hhonest e' he'
      · exact hlast e' (Option.mem_toList.mp he')

/-! ## Failed creations and used slots -/

/-- Once used up, a slot is never given to a session again. -/
theorem Steps.used_up {log : List Event} (h : Steps t log t') {i : Fin maxSessions}
    (hlimit : (t.slots i).generation = generationLimit) (hsound : t.Sound) :
    t'.Sound ∧ (t'.slots i).generation = generationLimit ∧
      ∀ k s, .created k s ∈ log → findSlot k ≠ some i := by
  induction h with
  | refl => exact ⟨hsound, hlimit, by simp⟩
  | @step u u' log e _ hstep ih =>
      obtain ⟨hu, hgeneration, hcreated⟩ := ih
      have hlast : (u'.slots i).generation = generationLimit ∧
          ∀ k s, e = some (.created k s) → findSlot k ≠ some i := by
        obtain ⟨c, hmove⟩ := hstep
        generalize u.pcs c = pc at hmove
        have hput : ∀ {j : Fin maxSessions} {slot : Slot κ} {pc : Pc},
            slot.generation = (u.slots j).generation →
            ((u.put c j slot pc).slots i).generation = generationLimit := by
          intro j slot pc hslot
          by_cases hj : i = j
          · subst hj
            simp [put, hslot, hgeneration]
          · simp [put, hj, hgeneration]
        cases hmove with
        | call hcall => cases hcall <;> exact ⟨hgeneration, by simp [Use.unmet]⟩
        | @install j random hfresh =>
            have hne : i ≠ j := by
              rintro rfl
              exact hfresh hgeneration
            refine ⟨by simp [put, hne, hgeneration], ?_⟩
            rintro k s ⟨⟩
            have hbound := hu.bounded j
            rw [findSlot_slotHandle (by omega)]
            exact fun hsome => hne (Option.some.inj hsome).symm
        | @busy j use =>
            refine ⟨hgeneration, ?_⟩
            cases use <;> simp [Use.unmet]
        | @uncalled j use =>
            refine ⟨hgeneration, ?_⟩
            cases use <;> simp [Use.unmet]
        | @unknown j use =>
            refine ⟨hgeneration, ?_⟩
            cases use <;> simp [Use.unmet]
        | @found j use =>
            refine ⟨hput rfl, ?_⟩
            cases use <;> simp [Use.run]
        | clear => exact ⟨hput rfl, by simp⟩
        | _ => first | exact ⟨hgeneration, by simp⟩ | exact ⟨hput rfl, by simp⟩
      refine ⟨hu.step hstep, hlast.1, ?_⟩
      intro k s hmem
      rcases List.mem_append.mp hmem with hmem | hmem
      · exact hcreated k s hmem
      · exact hlast.2 k s (Option.mem_toList.mp hmem)

/-- A creation that fails on its way gives its slot back. -/
theorem Sound.failed_create (h : t.Sound) {status : Status}
    (hstep : Step t (some (.notCreated status)) t')
    (hstatus : status = .internalError ∨ status = .outOfMemory) :
    ∃ i, t'.slots i = { t.slots i with reserved := false } ∧ (t'.slots i).session = none ∧
      ∀ j, j ≠ i → t'.slots j = t.slots j := by
  obtain ⟨c, hmove⟩ := hstep
  generalize hpc : t.pcs c = pc at hmove
  generalize he : some (Event.notCreated status) = e at hmove
  cases hmove with
  | call hcall =>
      cases hcall with
      | notCreated hinvalid =>
          cases he
          rcases hinvalid with rfl | rfl <;> rcases hstatus with hstatus | hstatus <;> cases hstatus
      | _ => cases he
  | limit =>
      cases he
      rcases hstatus with hstatus | hstatus <;> cases hstatus
  | @release i =>
      have hfree : (t.slots i).session = none := (h.flagged c i (by rw [hpc]; rfl)).2
      refine ⟨i, by simp [put], by simp [put, hfree], ?_⟩
      intro j hj
      simp [put, hj]
  | @busy j use => cases use <;> cases he
  | @uncalled j use => cases use <;> cases he
  | @unknown j use => cases use <;> cases he
  | @found j use => cases use <;> cases he
  | _ => cases he

/-- **Session handles are never confused.**  Whatever the callers do and
however their steps interleave: no handle is handed out twice, at most eight
sessions are live, and the slots hold exactly what the history puts behind the
handles.  Every call meets the session that is current for its handle, is
granted nothing on a handle without one, and is told that a handle is invalid
only when there is none.  A failed creation gives its slot back, at rest only
live and used slots are taken, and a used one never comes back. -/
theorem handles_never_confused {log : List Event} (h : Steps start log t) :
    (Registry.handedOut (history log)).Nodup ∧
      (Registry.live (history log)).length ≤ maxSessions ∧
      Registry.Legal (history log) ∧
      (∀ k s, Registry.current k (history log) = some s ↔
        ∃ i, (t.slots i).handle = k ∧ (t.slots i).session = some s) ∧
      (∀ earlier e later k, log = earlier ++ e :: later → e.granted = some k →
        Registry.current k (history earlier) ≠ none) ∧
      (∀ status t', Step t (some (.notCreated status)) t' →
        status = .internalError ∨ status = .outOfMemory →
        ∃ i, t'.slots i = { t.slots i with reserved := false } ∧ (t'.slots i).session = none ∧
          ∀ j, j ≠ i → t'.slots j = t.slots j) ∧
      ((∀ c, t.pcs c = .idle) → ∀ i, (t.slots i).session = none →
        (t.slots i).generation ≠ generationLimit → (t.slots i).reserved = false) ∧
      ∀ i, (t.slots i).generation = generationLimit → ∀ rest t', Steps t rest t' →
        ∀ k s, .created k s ∈ rest → findSlot k ≠ some i := by
  obtain ⟨hsound, _, hrepresents⟩ := reached_of_steps h
  have hhonest := (honest_of_steps h).2
  refine ⟨hrepresents.legal.nodup_handedOut, hrepresents.live_length, hrepresents.legal,
    hrepresents.current, ?_, fun status t' => hsound.failed_create, ?_, ?_⟩
  · intro earlier e later k hsplit hgranted
    have hmem : e ∈ log := by
      rw [hsplit]
      exact List.mem_append_right _ List.mem_cons_self
    -- the event is a use or an end of a session, which the history allows only on a live handle
    have hallowed : ∀ e', e.registry = some e' → Registry.Allowed (history earlier) e' := by
      intro e' he'
      refine hrepresents.legal (history earlier) e' (history later) ?_
      unfold history
      rw [hsplit, List.filterMap_append, List.filterMap_cons_some he']
    rcases (hhonest e hmem).granted hgranted with ⟨s, s', he⟩ | he
    · have hcurrent : Registry.current k (history earlier) = some s := hallowed _ he
      rw [hcurrent]
      exact Option.some_ne_none s
    · exact hallowed _ he
  · intro hidle i hfree hfresh
    by_contra htaken
    rcases hsound.settled i (by simpa using htaken) with hmet | hlimit | ⟨c, hflag⟩
    · exact hmet hfree
    · exact hfresh hlimit
    · rw [hidle c] at hflag
      cases hflag
  · intro i hlimit rest t' hsteps
    exact (hsteps.used_up hlimit hsound).2.2

/-- The first slot of the table. -/
def firstSlot : Fin maxSessions := ⟨0, by decide⟩

/-! ## Calls that nothing disturbs -/

section

variable {i : Fin maxSessions} {log : List Event} {pc : Pc}

/-- Of two writes to a slot by one thread the later one counts. -/
@[simp] theorem put_put (a b : Slot κ) (pc pc' : Pc) :
    (t.put c i a pc).put c i b pc' = t.put c i b pc' := by
  simp [put]

/-- A write to a slot moves the thread where it says, wherever it was sent before. -/
@[simp] theorem goto_put (b : Slot κ) (pc pc' : Pc) :
    (t.goto c pc).put c i b pc' = t.put c i b pc' := by
  simp [put, goto]

/-- A thread may be moved on after a write to a slot, and the write stays. -/
@[simp] theorem put_goto (a : Slot κ) (pc pc' : Pc) :
    (t.put c i a pc).goto c pc' = t.put c i a pc' := by
  simp [put, goto]

/-- A step that tells the caller nothing. -/
theorem Steps.silent (h : Steps start log t) (hpc : t.pcs c = pc) (hmove : Moves t c pc none t') :
    Steps start log t' := by
  have hstep := h.step ⟨c, hpc ▸ hmove⟩
  rwa [Option.toList_none, List.append_nil] at hstep

/-- One move with an event adds that event to the log. -/
theorem Steps.told {e : Event} (h : Steps start log t) (hpc : t.pcs c = pc)
    (hmove : Moves t c pc (some e) t') : Steps start (log ++ [e]) t' :=
  .step (e := some e) h ⟨c, hpc ▸ hmove⟩

/-- A session is created in the first slot. -/
theorem Steps.create (h : Steps start log t) (hidle : t.pcs c = .idle)
    (hfree : (t.slots firstSlot).reserved = false) (hunlocked : (t.slots firstSlot).holder = none)
    (hfresh : (t.slots firstSlot).generation ≠ generationLimit) (random : Identity) :
    let handle := slotHandle ((t.slots firstSlot).generation + 1) firstSlot
    let session : Session := { protocol := .fresh (versioned random) }
    Steps start (log ++ [.created handle session])
      (t.put c firstSlot { reserved := true, generation := (t.slots firstSlot).generation + 1,
                           handle, session := some session } .idle) := by
  intro handle session
  have hscanning := h.silent hidle (.call .create)
  have hreserving := hscanning.silent (pcs_goto_self _) (.reserve (i := firstSlot) hfree)
  rw [goto_put] at hreserving
  have hpreparing := hreserving.silent (pcs_put_self _ _ _)
    (.prepare (i := firstSlot) (by rw [slots_put_self]; exact hunlocked))
  rw [put_put, slots_put_self] at hpreparing
  have hleaving := hpreparing.told (pcs_put_self _ _ _)
    (.install (i := firstSlot) random (by rw [slots_put_self]; exact hfresh))
  rw [put_put, slots_put_self] at hleaving
  have hidle' := hleaving.silent (pcs_put_self _ _ _) (.leave (i := firstSlot))
  rwa [put_put, slots_put_self] at hidle'

/-- A session is destroyed. -/
theorem Steps.destroy {handle : Nat} (h : Steps start log t) (hidle : t.pcs c = .idle)
    (hi : findSlot handle = some i) (hunlocked : (t.slots i).holder = none)
    (hhandle : (t.slots i).handle = handle) (hs : (t.slots i).session ≠ none) :
    Steps start (log ++ [.destroyed handle .ok])
      (t.put c i { generation := (t.slots i).generation } .idle) := by
  have hclosing := h.silent hidle (.call (.destroy hi))
  have hentered := hclosing.silent (pcs_goto_self _) (.enter (i := i) hunlocked)
  rw [goto_put] at hentered
  have hcleared := hentered.told (pcs_put_self _ _ _)
    (.clear (i := i) (by rw [slots_put_self]; exact hhandle) (by rw [slots_put_self]; exact hs))
  rw [put_put, slots_put_self] at hcleared
  have hleaving := hcleared.silent (pcs_put_self _ _ _) (.giveBack (i := i))
  rw [put_put, slots_put_self] at hleaving
  have hidle' := hleaving.silent (pcs_put_self _ _ _) (.leave (i := i))
  rwa [put_put, slots_put_self] at hidle'

/-- A use that has looked up its slot meets a session there. -/
theorem Steps.use {use : Use} {s : Session} (h : Steps start log t)
    (hcalling : t.pcs c = .calling i use) (hunlocked : (t.slots i).holder = none)
    (hhandle : (t.slots i).handle = use.handle) (hs : (t.slots i).session = some s) :
    Steps start (log ++ [(use.run s).1])
      (t.put c i { t.slots i with session := some (use.run s).2 } .idle) := by
  have hholding := h.silent hcalling (.hold (i := i) hunlocked)
  have hleaving := hholding.told (pcs_put_self _ _ _)
    (.found (i := i) (by rw [slots_put_self]; exact hhandle) (by rw [slots_put_self]; exact hs))
  rw [put_put, slots_put_self] at hleaving
  have hidle := hleaving.silent (pcs_put_self _ _ _) (.leave (i := i))
  rw [put_put, slots_put_self] at hidle
  rwa [← hunlocked] at hidle

/-- Or it finds that its handle is no longer that of the slot. -/
theorem Steps.unmet {use : Use} (h : Steps start log t) (hcalling : t.pcs c = .calling i use)
    (hunlocked : (t.slots i).holder = none) (hhandle : (t.slots i).handle ≠ use.handle) :
    Steps start (log ++ [use.unmet .invalidHandle]) (t.put c i (t.slots i) .idle) := by
  have hholding := h.silent hcalling (.hold (i := i) hunlocked)
  have hleaving := hholding.told (pcs_put_self _ _ _)
    (.unknown (i := i) (by rw [slots_put_self]; exact .inl hhandle))
  rw [put_goto] at hleaving
  have hidle := hleaving.silent (pcs_put_self _ _ _) (.leave (i := i))
  rw [put_put, slots_put_self] at hidle
  rwa [← hunlocked] at hidle

end

/-! ### A handle of the past

One caller destroys its session and creates another one in the same slot, while the
other caller has looked up the slot of the old handle and waits for its mutex. -/

/-- The session that is created first. -/
def firstSession : Session where
  protocol := .fresh (versioned (Vector.replicate 16 0))

/-- The session that is created in the same slot afterwards. -/
def secondSession : Session where
  protocol := .fresh (versioned (Vector.replicate 16 1))

/-- A session is created and destroyed, another one takes its slot, and the handle of the
first is used again. -/
def staleLog : List Event :=
  [.created (slotHandle 1 firstSlot) firstSession,
    .destroyed (slotHandle 1 firstSlot) .ok,
    .created (slotHandle 2 firstSlot) secondSession,
    .measured (slotHandle 1 firstSlot) .invalidHandle none]

/-- The table can be used so: each call is led through its moves, one lemma for each kind of
call. -/
theorem staleLog_steps : ∃ t : Table Bool, Steps start staleLog t := by
  have hcreated := (Steps.refl (start : Table Bool)).create (c := false) rfl rfl rfl (by decide)
    (Vector.replicate 16 0)
  have hcalling := hcreated.silent (c := true) rfl
    (.call (.metrics (findSlot_slotHandle (g := 1) (by decide) firstSlot)))
  have hdestroyed := hcalling.destroy (c := false) rfl
    (findSlot_slotHandle (g := 1) (by decide) firstSlot) rfl rfl (Option.some_ne_none _)
  have hagain := hdestroyed.create (c := false) rfl rfl rfl (by decide) (Vector.replicate 16 1)
  exact ⟨_, hagain.unmet (c := true) (i := firstSlot) rfl rfl (by decide)⟩

/-- The old handle meets no session, and the new one meets the second. -/
theorem handles_never_confused_stale :
    ∃ t : Table Bool, Steps start staleLog t ∧
      Registry.handedOut (history staleLog) = [slotHandle 1 firstSlot, slotHandle 2 firstSlot] ∧
      (Registry.handedOut (history staleLog)).Nodup ∧ Registry.Legal (history staleLog) ∧
      Registry.current (slotHandle 1 firstSlot) (history staleLog) = none ∧
      Registry.current (slotHandle 2 firstSlot) (history staleLog) = some secondSession := by
  obtain ⟨t, hrun⟩ := staleLog_steps
  obtain ⟨hnodup, -, hlegal, -⟩ := handles_never_confused hrun
  exact ⟨t, hrun, rfl, hnodup, hlegal, rfl, rfl⟩

end Table

end FluidGateway.Native
