import FluidGateway.ConnectionSlots
import Mathlib.Tactic.Common

/-!
# Every permit comes back

What any number of threads keep while they take permits and give them back.  A
connection has at most one token: it is pending, or registered, or being
released by one of its threads.  The lock makes the deregistration unique, and
only the thread that has deregistered releases the semaphore.
-/

namespace FluidGateway.Slots

variable {κ : Type} [DecidableEq κ]

namespace Pc

/-- The permit of the connection has been taken. -/
def taken : Pc → Bool
  | .idle | .rejected => false
  | _ => true

/-- The acceptor has started the handler, or failed to. -/
def handedOver : Pc → Bool
  | .idle | .rejected | .acquired | .adding | .added | .counted | .starting => false
  | _ => true

/-- The connection has been seen to be off the register. -/
def past : Pc → Bool
  | .discarded _ | .decremented _ | .absent _ | .returning _ | .done => true
  | _ => false

/-- How far the count is behind the set. -/
def drift : Pc → ℤ
  | .added => 1
  | .discarded _ => -1
  | _ => 0

/-- Which actors can stand there. -/
def isFor : Pc → Actor κ → Bool
  | .idle, _ => true
  | .reading, .visitor _ | .closing, .visitor _ => true
  | .reading, _ | .closing, _ => false
  | .handling, .thread .handler _ => true
  | .handling, _ => false
  | .entering early, .thread r _ | .checking early, .thread r _ | .discarded early, .thread r _
  | .decremented early, .thread r _ | .absent early, .thread r _
  | .returning early, .thread r _ => r = .handler || !early
  | .done, .thread _ _ => true
  | _, .thread .acceptor _ => true
  | _, _ => false

attribute [grind =] inside pending leaving taken handedOver past drift

/-- Wherever a release goes on, the lock is not held there. -/
@[grind =] theorem inside_after (early : Bool) : (after early).inside = false := by
  cases early <;> rfl

/-- Wherever a release goes on, no registration is pending there. -/
@[grind =] theorem pending_after (early : Bool) : (after early).pending = false := by
  cases early <;> rfl

/-- Wherever a release goes on, no permit is still to be given back there. -/
@[grind =] theorem leaving_after (early : Bool) : (after early).leaving = false := by
  cases early <;> rfl

/-- Wherever a release goes on, the permit had been taken. -/
@[grind =] theorem taken_after (early : Bool) : (after early).taken = true := by
  cases early <;> rfl

/-- Wherever a release goes on, the acceptor was through with the handler. -/
@[grind =] theorem handedOver_after (early : Bool) : (after early).handedOver = true := by
  cases early <;> rfl

/-- After an early release the handler runs on; after a late one it is done. -/
@[grind =] theorem past_after (early : Bool) : (after early).past = !early := by
  cases early <;> rfl

/-- Wherever a release goes on, count and set agree. -/
@[grind =] theorem drift_after (early : Bool) : (after early).drift = 0 := by
  cases early <;> rfl

end Pc

open Role

section

variable {t t' : Server κ} {a : Actor κ} {e : Option (Event κ)}

/-- A connection gets onto the register only by being added. -/
theorem Moves.mem_of_mem (hm : Moves t a (t.pcs a) e t') {c : κ} (h : c ∈ t'.activeRequests) :
    c ∈ t.activeRequests ∨ a = .thread acceptor c ∧ t.pcs a = .adding := by
  generalize t.pcs a = pc at hm ⊢
  cases hm with
  | add =>
      rcases Finset.mem_insert.mp h with rfl | hold
      · exact .inr ⟨rfl, rfl⟩
      · exact .inl hold
  | discard => exact .inl (Finset.mem_of_mem_erase h)
  | _ => exact .inl h

/-- A step moves its own actor, and starts a handler at most. -/
theorem Moves.pcs_other (hm : Moves t a (t.pcs a) e t') {b : Actor κ} (h : b ≠ a) :
    t'.pcs b = t.pcs b ∨
      ∃ c, a = .thread acceptor c ∧ b = .thread handler c ∧ t.pcs a = .starting ∧
        t'.pcs b = .handling := by
  generalize t.pcs a = pc at hm
  cases hm with
  | @serve c | @startRaises c =>
      by_cases hstarted : b = .thread handler c
      · exact .inr ⟨c, rfl, hstarted, rfl, by simp [Server.goto, hstarted]⟩
      · exact .inl (by simp [Server.goto, h, hstarted])
  | _ => exact .inl (by simp [Server.goto, Server.lock, Server.unlock, h])

/-- A step takes the lock, gives it back or leaves it. -/
theorem Moves.holder_cases (hm : Moves t a (t.pcs a) e t') :
    (t.holder = none ∧ (t.pcs a).inside = false ∧ t'.holder = some a ∧
        (t'.pcs a).inside = true) ∨
      ((t.pcs a).inside = true ∧ t'.holder = none ∧ (t'.pcs a).inside = false) ∨
      (t'.holder = t.holder ∧ (t'.pcs a).inside = (t.pcs a).inside) := by
  generalize t.pcs a = pc at hm
  cases hm with
  | enter h | enterRelease h | read h | close h =>
      exact .inl ⟨h, rfl, rfl, by simp [Server.lock, Server.goto, Pc.inside]⟩
  | leave | leaveRelease | tell | copied =>
      exact .inr (.inl ⟨rfl, rfl, by simp [Server.unlock, Server.goto, Pc.inside]⟩)
  | leaveAbsent =>
      exact .inr (.inl ⟨rfl, rfl, by simp [Server.unlock, Server.goto, Pc.inside_after]⟩)
  | giveBack | overRelease =>
      refine .inr (.inr ⟨rfl, ?_⟩)
      simp only [Server.goto, Function.update_self, Pc.inside_after]
      rfl
  | _ => exact .inr (.inr ⟨rfl, by simp [Server.goto, Pc.inside]⟩)

/-- The count and the set change together, but for what the actor still owes. -/
theorem Moves.drift_eq (hm : Moves t a (t.pcs a) e t')
    (hfresh : ∀ c, a = .thread acceptor c → (t.pcs a).pending = true → c ∉ t.activeRequests) :
    t'.activeConnectionCount + (t'.pcs a).drift - t'.activeRequests.card =
      t.activeConnectionCount + (t.pcs a).drift - t.activeRequests.card := by
  generalize t.pcs a = pc at hm hfresh
  cases hm with
  | @add c =>
      have hcard := Finset.card_insert_of_notMem (hfresh c rfl rfl)
      simp only [Server.goto, Function.update_self, Pc.drift, hcard]
      push_cast
      omega
  | @discard r c early hmem =>
      have hcard := Finset.card_erase_add_one hmem
      simp only [Server.goto, Function.update_self, Pc.drift]
      omega
  | @leaveAbsent _ _ early | @giveBack _ _ early | @overRelease _ _ early =>
      cases early <;> simp [Server.goto, Server.unlock, Pc.after, Pc.drift]
  | countDown =>
      simp only [Server.goto, Function.update_self, Pc.drift]
      omega
  | _ => simp [Server.goto, Server.lock, Server.unlock, Pc.drift]

/-- Count and set are apart only while the lock is held. -/
theorem Pc.drift_of_outside {pc : Pc} (h : pc.inside = false) : pc.drift = 0 := by
  cases pc <;> first | rfl | cases h

/-- A step of another actor leaves a connection alone. -/
theorem Moves.elsewhere (hm : Moves t a (t.pcs a) e t') {c : κ} (h : ∀ r, a ≠ .thread r c) :
    (∀ r, t'.pcs (.thread r c) = t.pcs (.thread r c)) ∧
      (c ∈ t'.activeRequests ↔ c ∈ t.activeRequests) ∧
      e.toList.count (.givenBack c) = 0 ∧ e.toList.count (.accepted c) = 0 := by
  generalize t.pcs a = pc at hm
  cases hm <;> simp_all [Server.goto, Server.lock, Server.unlock, eq_comm]

/-- A thread finds its connection off the register by taking it off, or by
missing it. -/
theorem Moves.past_of_past (hm : Moves t a (t.pcs a) e t') {r : Role} {c : κ}
    (h : (t'.pcs (.thread r c)).past = true) :
    (t.pcs (.thread r c)).past = true ∨ c ∉ t'.activeRequests := by
  generalize hpc : t.pcs a = pc at hm
  cases hm <;>
    simp only [Server.goto, Server.lock, Server.unlock, Function.update_apply] at h ⊢ <;> grind

end

namespace Server

/-- The connection is on the register. -/
@[grind]
def registered (requests : Finset κ) (c : κ) : Bool :=
  c ∈ requests

/-- The permits a connection holds. -/
def tokens (t : Server κ) (c : κ) : Nat :=
  (t.pcs (.thread acceptor c)).pending.toNat + (registered t.activeRequests c).toNat +
    (t.pcs (.thread acceptor c)).leaving.toNat + (t.pcs (.thread handler c)).leaving.toNat

/-- A connection holds a permit exactly where its tokens are not zero. -/
theorem holds_iff_tokens (t : Server κ) (c : κ) : t.Holds c ↔ t.tokens c ≠ 0 := by
  have hroles : (∃ r, (t.pcs (.thread r c)).leaving = true) ↔
      (t.pcs (.thread acceptor c)).leaving = true ∨
        (t.pcs (.thread handler c)).leaving = true :=
    ⟨fun ⟨r, h⟩ => by cases r <;> simp [h], fun h => h.elim (⟨_, ·⟩) (⟨_, ·⟩)⟩
  unfold Holds tokens registered
  rw [hroles]
  cases (t.pcs (.thread acceptor c)).pending <;>
    cases (t.pcs (.thread acceptor c)).leaving <;>
    cases (t.pcs (.thread handler c)).leaving <;>
    by_cases h : c ∈ t.activeRequests <;> simp [h]

/-- How far the count is behind the set, by whoever holds the lock. -/
def drift (t : Server κ) : ℤ :=
  (t.holder.map fun a => (t.pcs a).drift).getD 0

/-- What holds after any number of steps. -/
structure Sound (maximum : Nat) (t : Server κ) (log : List (Event κ)) : Prop where
  size : t.maximum = maximum
  placed : ∀ a, (t.pcs a).isFor a = true
  locked : ∀ a, (t.pcs a).inside = true ↔ t.holder = some a
  started : ∀ c, t.pcs (.thread acceptor c) = .served → t.pcs (.thread handler c) ≠ .idle
  served : ∀ c, t.pcs (.thread handler c) ≠ .idle →
    (t.pcs (.thread acceptor c)).handedOver = true
  past : ∀ r c, (t.pcs (.thread r c)).past = true → c ∉ t.activeRequests
  balance : ∀ c, log.count (.accepted c) = log.count (.givenBack c) + t.tokens c
  taken : ∀ c, log.count (.accepted c) = (t.pcs (.thread acceptor c)).taken.toNat
  permits : ∃ holders : Finset κ, (∀ c, c ∈ holders ↔ t.Holds c) ∧
    t.free + holders.card = maximum
  count : t.activeConnectionCount + t.drift = t.activeRequests.card
  fits : ∀ c, .overReleased c ∉ log

variable {maximum : Nat} {t t' : Server κ} {log : List (Event κ)} {a : Actor κ}
  {e : Option (Event κ)}

namespace Sound

/-- A connection holds one permit at most: it has taken no more. -/
theorem tokens_le (hs : Sound maximum t log) (c : κ) : t.tokens c ≤ 1 := by
  have hle := Bool.toNat_le (t.pcs (.thread acceptor c)).taken
  have hbalance := hs.balance c
  have htaken := hs.taken c
  omega

/-- A connection whose registration is pending is not registered, since both are tokens for
one permit. -/
theorem not_mem_of_pending (hs : Sound maximum t log) {c : κ}
    (h : (t.pcs (.thread acceptor c)).pending = true) : c ∉ t.activeRequests := by
  intro hmem
  have hle := hs.tokens_le c
  simp only [tokens, registered, h, hmem, decide_true, Bool.toNat_true] at hle
  omega

/-- A connection whose threads are through holds no permit. -/
theorem tokens_of_finished (hs : Sound maximum t log) {c : κ} (h : t.Finished c) :
    t.tokens c = 0 := by
  have hpast : c ∉ t.activeRequests := by
    rcases h with ⟨-, h⟩ | ⟨h, -⟩
    · exact hs.past handler c (by rw [h]; rfl)
    · exact hs.past acceptor c (by rw [h]; rfl)
  unfold tokens
  rcases h with ⟨ha, hh⟩ | ⟨ha, hh | hh⟩ <;> simp [ha, hh, hpast, registered, Pc.pending, Pc.leaving]

/-! ### One step -/

/-- No step changes how many permits there are. -/
theorem step_size (hs : Sound maximum t log) (hm : Moves t a (t.pcs a) e t') :
    t'.maximum = maximum := by
  have hsize := hs.size
  generalize t.pcs a = pc at hm
  cases hm <;> exact hsize

/-- A step leaves every actor where such an actor can stand. -/
theorem step_placed (hs : Sound maximum t log) (hm : Moves t a (t.pcs a) e t') (b : Actor κ) :
    (t'.pcs b).isFor b = true := by
  have ha := hs.placed a
  by_cases hother : b = a
  · subst hother
    generalize t.pcs b = pc at hm ha
    cases hm with
    | @enterRelease r | @discard r | @miss r | @countDown r | @leaveRelease r =>
        simpa [goto, lock, unlock, Pc.isFor] using ha
    | @leaveAbsent r _ early | @giveBack r _ early | @overRelease r _ early =>
        cases r <;> cases early <;>
          first | (simp [goto, unlock, Pc.isFor, Pc.after]; done) | simp [Pc.isFor] at ha
    | _ => simp [goto, lock, unlock, Pc.isFor]
  · rcases hm.pcs_other hother with h | ⟨c, rfl, rfl, -, h⟩
    · rw [h]
      exact hs.placed b
    · rw [h]
      rfl

/-- A handler has not been started before its acceptor gets to it. -/
theorem handler_idle (hs : Sound maximum t log) {c : κ}
    (h : (t.pcs (.thread acceptor c)).handedOver = false) :
    t.pcs (.thread handler c) = .idle := by
  by_contra hne
  rw [hs.served c hne] at h
  cases h

/-- A step leaves the lock with the one actor that is inside. -/
theorem step_locked (hs : Sound maximum t log) (hm : Moves t a (t.pcs a) e t') (b : Actor κ) :
    (t'.pcs b).inside = true ↔ t'.holder = some b := by
  have ha := hs.locked a
  have hb := hs.locked b
  by_cases hother : b = a
  · subst hother
    rcases hm.holder_cases with ⟨-, -, hholder, hinside⟩ | ⟨-, hholder, hinside⟩ | ⟨hholder, hinside⟩
    · simp [hholder, hinside]
    · simp [hholder, hinside]
    · rw [hholder, hinside, hb]
  · have hinside : (t'.pcs b).inside = (t.pcs b).inside := by
      rcases hm.pcs_other hother with h | ⟨c, rfl, rfl, hpc, h⟩
      · rw [h]
      · rw [h, hs.handler_idle (by rw [hpc]; rfl)]
        rfl
    rw [hinside, hb]
    rcases hm.holder_cases with ⟨hfree, -, hholder, -⟩ | ⟨hheld, hholder, -⟩ | ⟨hholder, -⟩
    · simp [hfree, hholder, Ne.symm hother]
    · simp [ha.mp hheld, hholder, Ne.symm hother]
    · rw [hholder]

/-- A connection that is served has a handler that was started. -/
theorem step_started (hs : Sound maximum t log) (hm : Moves t a (t.pcs a) e t') (c : κ)
    (h : t'.pcs (.thread acceptor c) = .served) : t'.pcs (.thread handler c) ≠ .idle := by
  have hc := hs.started c
  generalize hpc : t.pcs a = pc at hm
  cases hm <;> simp only [goto, lock, unlock, Function.update_apply] at * <;> grind [Pc.after]

/-- A handler runs only once the acceptor has handed the connection over. -/
theorem step_served (hs : Sound maximum t log) (hm : Moves t a (t.pcs a) e t') (c : κ)
    (h : t'.pcs (.thread handler c) ≠ .idle) :
    (t'.pcs (.thread acceptor c)).handedOver = true := by
  by_cases ha : a = .thread acceptor c
  · subst ha
    have hidle := @handler_idle _ _ _ _ _ hs c
    generalize hpc : t.pcs (.thread acceptor c) = pc at hm
    cases hm with
    | accept | reject | enter | add | countUp | leave =>
        refine absurd ?_ h
        simpa [goto, lock, unlock] using hidle (by rw [hpc]; rfl)
    | @leaveAbsent _ _ early | @giveBack _ _ early | @overRelease _ _ early =>
        cases early <;> simp [goto, unlock, Pc.after, Pc.handedOver]
    | _ => simp [goto, lock, unlock, Pc.handedOver]
  · -- the acceptor stands where it stood, and the handler was started before
    have hacceptor : t'.pcs (.thread acceptor c) = t.pcs (.thread acceptor c) := by
      rcases hm.pcs_other (Ne.symm ha) with h | ⟨d, -, hd, -⟩
      · exact h
      · cases hd
    rw [hacceptor]
    refine hs.served c fun hidle => ?_
    by_cases hb : a = .thread handler c
    · subst hb
      rw [hidle] at hm
      cases hm
    · rcases hm.pcs_other (Ne.symm hb) with hsame | ⟨d, rfl, hd, -⟩
      · exact h (hsame.trans hidle)
      · cases hd
        exact ha rfl

/-- A thread that has found its connection off the register is right about that from then
on, since nothing registers it again. -/
theorem step_past (hs : Sound maximum t log) (hm : Moves t a (t.pcs a) e t') (r : Role) (c : κ)
    (h : (t'.pcs (.thread r c)).past = true) : c ∉ t'.activeRequests := by
  intro hmem
  rcases hm.past_of_past h with hpast | hgone
  · rcases hm.mem_of_mem hmem with hold | ⟨rfl, hadding⟩
    · exact hs.past r c hpast hold
    · -- the acceptor is still adding, so no handler has been started
      cases r with
      | acceptor =>
          rw [hadding] at hpast
          cases hpast
      | handler =>
          have hserved := hs.served c (by intro hidle; rw [hidle] at hpast; cases hpast)
          rw [hadding] at hserved
          cases hserved
  · exact hgone hmem

/-- A token comes with a permit and goes with one. -/
theorem step_tokens (hs : Sound maximum t log) (hm : Moves t a (t.pcs a) e t')
    (hfits : ∀ c, e ≠ some (.overReleased c)) (c : κ) :
    t'.tokens c + e.toList.count (.givenBack c) = t.tokens c + e.toList.count (.accepted c) := by
  by_cases hown : ∃ r, a = .thread r c
  · obtain ⟨r, rfl⟩ := hown
    have hpending := @not_mem_of_pending _ _ _ _ _ hs c
    generalize hpc : t.pcs (.thread r c) = pc at hm
    have hidle := @handler_idle _ _ _ _ _ hs c
    cases hm <;> simp only [tokens, goto, lock, unlock]
    case add =>
      have hfresh : c ∉ t.activeRequests := hpending (by rw [hpc]; rfl)
      simp [hpc, registered, hfresh, Pc.pending, Pc.leaving]
    case serve =>
      have hhandler := hidle (by rw [hpc]; rfl)
      simp [hpc, hhandler, registered, Pc.pending, Pc.leaving]
    case startRaises =>
      have hhandler := hidle (by rw [hpc]; rfl)
      simp [hpc, hhandler, registered, Pc.pending, Pc.leaving]
    case discard _ hmem =>
      cases r <;> simp [hpc, hmem, registered, Pc.pending, Pc.leaving]
      omega
    case overRelease => exact absurd rfl (hfits c)
    case giveBack early _ =>
      cases r <;> cases early <;> simp [hpc, registered, Pc.pending, Pc.leaving, Pc.after] <;> omega
    case leaveAbsent early =>
      cases r <;> cases early <;> simp [hpc, registered, Pc.pending, Pc.leaving, Pc.after]
    case accept =>
      simp [hpc, registered, Pc.pending, Pc.leaving]
      omega
    case enterRelease | miss | countDown | leaveRelease =>
      cases r <;> simp [hpc, registered, Pc.pending, Pc.leaving]
    all_goals simp [hpc, registered, Pc.pending, Pc.leaving]
  · obtain ⟨hpcs, hmem, hnone⟩ := hm.elsewhere fun r h => hown ⟨r, h⟩
    simp only [tokens, hpcs, registered, hmem, hnone.1, hnone.2]

/-- Whoever releases the semaphore holds a permit. -/
theorem not_overReleased (hs : Sound maximum t log) (hm : Moves t a (t.pcs a) e t') (c : κ) :
    e ≠ some (.overReleased c) := by
  obtain ⟨holders, hholders, hfree⟩ := hs.permits
  rintro rfl
  generalize hpc : t.pcs a = pc at hm
  cases hm with
  | @overRelease r _ early h =>
    have hheld : t.Holds c := .inr (.inr ⟨r, by rw [hpc]; rfl⟩)
    have hcard := Finset.card_pos.mpr ⟨c, (hholders c).mpr hheld⟩
    have hsize := hs.size
    omega

/-- A connection is accepted once, by the step that takes its permit. -/
theorem step_taken (hs : Sound maximum t log) (hm : Moves t a (t.pcs a) e t') (c : κ) :
    (log ++ e.toList).count (.accepted c) = (t'.pcs (.thread acceptor c)).taken.toNat := by
  have hc := hs.taken c
  generalize hpc : t.pcs a = pc at hm
  cases hm <;> simp only [goto, lock, unlock, Function.update_apply] at * <;> grind

/-- What a step does to the semaphore. -/
theorem free_cases (hm : Moves t a (t.pcs a) e t') :
    (∃ c, e = some (.accepted c) ∧ t.free = t'.free + 1) ∨
      (∃ c, e = some (.givenBack c) ∧ t'.free = t.free + 1) ∨
      (t'.free = t.free ∧ ∀ c, e ≠ some (.accepted c) ∧ e ≠ some (.givenBack c)) := by
  generalize t.pcs a = pc at hm
  cases hm <;> simp only [goto, lock, unlock] <;> grind

/-- The permits that are free and those that are held are all permits. A step moves one
connection at most into or out of the holders. -/
theorem step_permits (hs : Sound maximum t log) (hm : Moves t a (t.pcs a) e t') :
    ∃ holders : Finset κ, (∀ c, c ∈ holders ↔ t'.Holds c) ∧
      t'.free + holders.card = maximum := by
  obtain ⟨holders, hholders, hfree⟩ := hs.permits
  have htokens := hs.step_tokens hm (hs.not_overReleased hm)
  simp only [holds_iff_tokens] at *
  rcases free_cases hm with ⟨c, rfl, hc⟩ | ⟨c, rfl, hc⟩ | ⟨hc, hnone⟩
  · -- the connection had no token before
    have hfresh : c ∉ holders := by
      have htaken := hs.step_taken hm c
      have hle := Bool.toNat_le (t'.pcs (.thread acceptor c)).taken
      have hbalance := hs.balance c
      rw [hholders]
      simp only [Option.toList_some, List.count_append, List.count_singleton_self] at htaken
      omega
    refine ⟨insert c holders, fun d => ?_, ?_⟩
    · have hd := htokens d
      rw [Finset.mem_insert, hholders]
      by_cases h : d = c
      · subst h
        simp at hd
        simp [hd]
      · simp [Ne.symm h] at hd
        simp [h, hd]
    · rw [Finset.card_insert_of_notMem hfresh]
      omega
  · -- and has none afterwards
    have hle := hs.tokens_le c
    have hheld : c ∈ holders := by
      have hd := htokens c
      simp at hd
      rw [hholders]
      omega
    refine ⟨holders.erase c, fun d => ?_, ?_⟩
    · have hd := htokens d
      rw [Finset.mem_erase, hholders]
      by_cases h : d = c
      · subst h
        simp at hd
        simp only [ne_eq, not_true_eq_false, false_and, false_iff, not_not]
        omega
      · simp [Ne.symm h] at hd
        simp [h, hd]
    · have hcard := Finset.card_erase_add_one hheld
      omega
  · refine ⟨holders, fun d => ?_, by omega⟩
    have hd := htokens d
    have hzero : e.toList.count (.accepted d) = 0 ∧ e.toList.count (.givenBack d) = 0 := by
      have := hnone d
      cases e <;> simp_all
    rw [hholders]
    omega

/-- The count follows the set, but for the steps between the two under the lock. -/
theorem step_count (hs : Sound maximum t log) (hm : Moves t a (t.pcs a) e t') :
    t'.activeConnectionCount + t'.drift = t'.activeRequests.card := by
  have hcount := hs.count
  have howed := hm.drift_eq fun c ha h => hs.not_mem_of_pending (by rwa [ha] at h)
  have hlocked := hs.locked a
  rcases hm.holder_cases with ⟨hfree, hout, hholder, -⟩ | ⟨hheld, hholder, hout⟩ | ⟨hholder, hinside⟩
  · -- the actor takes the lock, and owes nothing before
    have hbefore := Pc.drift_of_outside hout
    simp only [drift, hfree, hholder, Option.map_none, Option.map_some, Option.getD_none,
      Option.getD_some] at hcount ⊢
    omega
  · -- the actor gives the lock back, and owes nothing afterwards
    have hafter := Pc.drift_of_outside hout
    simp only [drift, hlocked.mp hheld, hholder, Option.map_none, Option.map_some,
      Option.getD_none, Option.getD_some] at hcount ⊢
    omega
  · unfold drift at hcount ⊢
    rw [hholder]
    cases hcase : t.holder with
    | none =>
        have hout : (t.pcs a).inside = false := by
          rw [Bool.eq_false_iff]
          intro h
          rw [hlocked.mp h] at hcase
          cases hcase
        have hbefore := Pc.drift_of_outside hout
        have hafter := Pc.drift_of_outside (hinside.trans hout)
        simp only [hcase, Option.map_none, Option.getD_none] at hcount ⊢
        omega
    | some b =>
        simp only [hcase, Option.map_some, Option.getD_some] at hcount ⊢
        by_cases hother : b = a
        · subst hother
          omega
        · -- whoever holds the lock stands where it stood, and the actor owes nothing
          have hin := (hs.locked b).mpr hcase
          have hout : (t.pcs a).inside = false := by
            rw [Bool.eq_false_iff]
            intro h
            rw [hlocked.mp h] at hcase
            exact hother (Option.some.inj hcase).symm
          have hbefore := Pc.drift_of_outside hout
          have hafter := Pc.drift_of_outside (hinside.trans hout)
          have hsame : t'.pcs b = t.pcs b := by
            rcases hm.pcs_other hother with h | ⟨c, rfl, rfl, hpc, -⟩
            · exact h
            · rw [hs.handler_idle (by rw [hpc]; rfl)] at hin
              cases hin
          rw [hsame]
          omega

/-- Every step keeps what holds of a server, part by part. -/
theorem step (hs : Sound maximum t log) (hstep : t.Step e t') :
    Sound maximum t' (log ++ e.toList) := by
  obtain ⟨a, hm⟩ := hstep
  have hfits := hs.not_overReleased hm
  refine ⟨hs.step_size hm, hs.step_placed hm, hs.step_locked hm, hs.step_started hm,
    hs.step_served hm, hs.step_past hm, fun c => ?_, hs.step_taken hm, hs.step_permits hm,
    hs.step_count hm, fun c => ?_⟩
  · have htokens := hs.step_tokens hm hfits c
    have hbalance := hs.balance c
    rw [List.count_append, List.count_append]
    omega
  · rw [List.mem_append, Option.mem_toList]
    exact fun h => h.elim (hs.fits c) (hfits c)

end Sound

/-- A new server has all permits and no connection. -/
theorem sound_start (maximum : Nat) : Sound maximum (start maximum : Server κ) [] where
  size := rfl
  placed _ := rfl
  locked _ := by simp [start, Pc.inside]
  started _ h := by simp [start] at h
  served _ h := absurd rfl h
  past _ _ h := by simp [start, Pc.past] at h
  balance _ := rfl
  taken _ := rfl
  permits := ⟨∅, fun c => by simp [holds_iff_tokens]; rfl, rfl⟩
  count := rfl
  fits _ := List.not_mem_nil

/-- What holds of a server holds after any number of steps, by induction on them. -/
theorem Steps.sound (h : Steps (start maximum) log t) : Sound maximum t log := by
  generalize hstart : (start maximum : Server κ) = first at h
  induction h with
  | refl =>
    subst hstart
    exact sound_start maximum
  | step _ hstep ih => exact ih.step hstep

namespace Sound

/-- A visitor is told the size of the set. -/
theorem told (hs : Sound maximum t log) {n : ℤ} (hstep : t.Step (some (.counted n)) t') :
    n = t.activeRequests.card := by
  obtain ⟨a, hm⟩ := hstep
  have hcount := hs.count
  have hlocked := hs.locked a
  generalize hpc : t.pcs a = pc at hm
  cases hm with
  | tell =>
    have hholder := hlocked.mp (by rw [hpc]; rfl)
    simpa [drift, hholder, hpc, Pc.drift] using hcount

/-- Whoever holds the lock can go on. -/
theorem moves_of_holder (hs : Sound maximum t log) (h : t.holder = some a) :
    ∃ e t', Moves t a (t.pcs a) e t' := by
  have hinside := (hs.locked a).mpr h
  have hplaced := hs.placed a
  rcases a with ⟨r, c⟩ | v
  · cases hpc : t.pcs (.thread r c) <;> rw [hpc] at hinside hplaced <;>
      simp only [Pc.inside, Pc.isFor, reduceCtorEq] at hinside hplaced
    case adding => cases r <;> first | exact ⟨_, _, .add⟩ | cases hplaced
    case added => cases r <;> first | exact ⟨_, _, .countUp⟩ | cases hplaced
    case counted => cases r <;> first | exact ⟨_, _, .leave⟩ | cases hplaced
    case checking early =>
      by_cases hmem : c ∈ t.activeRequests
      · exact ⟨_, _, .discard hmem⟩
      · exact ⟨_, _, .miss hmem⟩
    case discarded early => exact ⟨_, _, .countDown⟩
    case decremented early => exact ⟨_, _, .leaveRelease⟩
    case absent early => exact ⟨_, _, .leaveAbsent⟩
  · cases hpc : t.pcs (.visitor v) <;> rw [hpc] at hinside hplaced <;>
      simp only [Pc.inside, Pc.isFor, reduceCtorEq] at hinside hplaced
    case reading => exact ⟨_, _, .tell⟩
    case closing => exact ⟨_, _, .copied⟩

/-- A thread that is neither at its beginning nor at its end can go on once the
lock is free. -/
theorem moves_of_unlocked (hs : Sound maximum t log) (h : t.holder = none) (r : Role) (c : κ)
    (hpc : t.pcs (.thread r c) ∉ [.idle, .rejected, .served, .done]) :
    ∃ e t', Moves t (.thread r c) (t.pcs (.thread r c)) e t' := by
  have hplaced := hs.placed (.thread r c)
  cases hcase : t.pcs (.thread r c) <;> rw [hcase] at hpc hplaced
  case acquired => cases r <;> first | exact ⟨_, _, .enter h⟩ | cases hplaced
  case adding => cases r <;> first | exact ⟨_, _, .add⟩ | cases hplaced
  case added => cases r <;> first | exact ⟨_, _, .countUp⟩ | cases hplaced
  case counted => cases r <;> first | exact ⟨_, _, .leave⟩ | cases hplaced
  case starting => cases r <;> first | exact ⟨_, _, .serve⟩ | cases hplaced
  case handling => cases r <;> first | exact ⟨_, _, .finish⟩ | cases hplaced
  case entering early => exact ⟨_, _, .enterRelease h⟩
  case checking early =>
    by_cases hmem : c ∈ t.activeRequests
    · exact ⟨_, _, .discard hmem⟩
    · exact ⟨_, _, .miss hmem⟩
  case discarded early => exact ⟨_, _, .countDown⟩
  case decremented early => exact ⟨_, _, .leaveRelease⟩
  case absent early => exact ⟨_, _, .leaveAbsent⟩
  case returning early =>
    by_cases hfree : t.free < t.maximum
    · exact ⟨_, _, .giveBack hfree⟩
    · exact ⟨_, _, .overRelease (Nat.le_of_not_lt hfree)⟩
  case reading => cases hplaced
  case closing => cases hplaced
  all_goals simp at hpc

/-- While the lock is free, some thread of a connection that is not finished can move. -/
theorem moves_of_free (hs : Sound maximum t log) {c : κ} (hc : .accepted c ∈ log)
    (h : ¬ t.Finished c) (hfree : t.holder = none) :
    ∃ r, ∃ e t', Moves t (.thread r c) (t.pcs (.thread r c)) e t' := by
  have htaken : (t.pcs (.thread acceptor c)).taken = true := by
    have hcount := List.count_pos_iff.mpr hc
    rw [hs.taken c] at hcount
    grind
  have hstarted := hs.started c
  have hserved := hs.served c
  by_cases ha : t.pcs (.thread acceptor c) ∈ [.idle, .rejected, .served, .done]
  · refine ⟨handler, hs.moves_of_unlocked hfree handler c fun hh => h ?_⟩
    have hplaced := hs.placed (.thread handler c)
    unfold Finished
    simp at ha hh
    grind [Pc.isFor]
  · exact ⟨acceptor, hs.moves_of_unlocked hfree acceptor c ha⟩

/-- No accepted connection is ever stuck: one of its threads can move, or waits
for a lock whose holder can. -/
theorem progress (hs : Sound maximum t log) {c : κ} (hc : .accepted c ∈ log)
    (h : ¬ t.Finished c) :
    ∃ a, ((∃ r, a = .thread r c) ∨ t.holder = some a) ∧ ∃ e t', Moves t a (t.pcs a) e t' := by
  rcases hholder : t.holder with _ | b
  · obtain ⟨r, hr⟩ := hs.moves_of_free hc h hholder
    exact ⟨_, .inl ⟨r, rfl⟩, hr⟩
  · exact ⟨b, .inr rfl, hs.moves_of_holder hholder⟩

end Sound

/-- Permits are conserved, the count is the size of the set, the semaphore is never
released too often, and every accepted connection gives its permit back exactly
once: at most once so far, exactly once when its threads are through, and until
then something can go on. -/
theorem slots_conserved (h : Steps (start maximum) log t) :
    (∃ holders : Finset κ, (∀ c, c ∈ holders ↔ t.Holds c) ∧
      t.free + holders.card = maximum) ∧
    (t.holder = none → t.activeConnectionCount = t.activeRequests.card) ∧
    (∀ n t', t.Step (some (.counted n)) t' → n = t.activeRequests.card) ∧
    (∀ c, .overReleased c ∉ log) ∧
    (∀ c, log.count (.accepted c) ≤ 1 ∧
      log.count (.givenBack c) ≤ log.count (.accepted c) ∧
      (t.Finished c → log.count (.givenBack c) = log.count (.accepted c)) ∧
      (.accepted c ∈ log → ¬ t.Finished c → ∃ a, ((∃ r, a = .thread r c) ∨ t.holder = some a) ∧
        ∃ e t', Moves t a (t.pcs a) e t')) ∧
    ((∀ c, .accepted c ∈ log → t.Finished c) → t.free = maximum) := by
  have hs := h.sound
  refine ⟨hs.permits, fun hnone => ?_, fun n t' hstep => hs.told hstep, hs.fits,
    fun c => ⟨?_, ?_, fun hfin => ?_, fun hc => hs.progress hc⟩, fun hall => ?_⟩
  · have hcount := hs.count
    simpa [drift, hnone] using hcount
  · have hle := Bool.toNat_le (t.pcs (.thread acceptor c)).taken
    exact (hs.taken c).trans_le hle
  · have hbalance := hs.balance c
    omega
  · have hbalance := hs.balance c
    have htokens := hs.tokens_of_finished hfin
    omega
  · obtain ⟨holders, hholders, hfree⟩ := hs.permits
    have hempty : holders = ∅ := by
      apply Finset.eq_empty_of_forall_notMem
      intro c hc
      rw [hholders, holds_iff_tokens] at hc
      have hbalance := hs.balance c
      have haccepted : .accepted c ∈ log := List.count_pos_iff.mp (by omega)
      exact hc (hs.tokens_of_finished (hall c haccepted))
    rw [hempty, Finset.card_empty] at hfree
    exact hfree

/-- One connection that says goodbye. -/
theorem goodbye_run : ∃ t : Server Nat, Steps (start 1) [.accepted 0, .givenBack 0] t ∧
    ∀ c, Event.accepted c ∈ [Event.accepted 0, .givenBack 0] → t.Finished c := by
  have hrun := Steps.refl (start 1 : Server Nat)
  have hrun := hrun.step ⟨.thread acceptor 0, .accept (by decide)⟩
  have hrun := hrun.step ⟨.thread acceptor 0, .enter rfl⟩
  have hrun := hrun.step ⟨.thread acceptor 0, .add⟩
  have hrun := hrun.step ⟨.thread acceptor 0, .countUp⟩
  have hrun := hrun.step ⟨.thread acceptor 0, .leave⟩
  have hrun := hrun.step ⟨.thread acceptor 0, .serve⟩
  have hrun := hrun.step ⟨.thread handler 0, .goodbye⟩
  have hrun := hrun.step ⟨.thread handler 0, .enterRelease rfl⟩
  have hrun := hrun.step ⟨.thread handler 0, .discard (by decide)⟩
  have hrun := hrun.step ⟨.thread handler 0, .countDown⟩
  have hrun := hrun.step ⟨.thread handler 0, .leaveRelease⟩
  have hrun := hrun.step ⟨.thread handler 0, .giveBack (by decide)⟩
  -- the handler ends, and finds the connection off the register
  have hrun := hrun.step ⟨.thread handler 0, .finish⟩
  have hrun := hrun.step ⟨.thread handler 0, .enterRelease rfl⟩
  have hrun := hrun.step ⟨.thread handler 0, .miss (by decide)⟩
  have hrun := hrun.step ⟨.thread handler 0, .leaveAbsent⟩
  refine ⟨_, hrun, fun c hc => ?_⟩
  obtain rfl : c = 0 := by simpa using hc
  exact .inl ⟨rfl, rfl⟩

/-- A server with one permit has it back after its connection was served. -/
theorem slots_conserved_goodbye : ∃ t : Server Nat,
    Steps (start 1) [.accepted 0, .givenBack 0] t ∧ t.free = 1 := by
  obtain ⟨t, hrun, hfin⟩ := goodbye_run
  obtain ⟨-, -, -, -, -, hfree⟩ := slots_conserved hrun
  exact ⟨t, hrun, hfree hfin⟩

end Server

end FluidGateway.Slots
