import FluidGateway.OptimizerLedger

/-!
# What submitting an operation does to the reference optimizer

`Decided` and `Processed` list the cases of `decide_operation` and `process`
once.  From them: the remembered operations stay valid, and the dictionary of
replacements stays in agreement with the log of everything submitted so far
(`Logged`).
-/

namespace FluidGateway.Runtime

open KeyedMap Provenance Resolution

variable (casing : Casing)

/-! ## Decisions -/

/-- When an operation is eliminated, by policy. -/
inductive Decided (s : RuntimeOptimizationState) (operation : RuntimeOperation)
    (decision : RuntimeDecision) : Prop
  | selfCopy {id : String} (policy : decision.policy = .eliminateSelfCopy)
      (transfers : operation.type.transfers = true) (source : operation.source = some id)
      (target : operation.target = some id) (known : s.resources.get id ≠ none)
  | aliased {a b : String} {ra rb : RuntimeResource}
      (policy : decision.policy = .collapseAliasedResourceCopy)
      (transfers : operation.type.transfers = true) (source : operation.source = some a)
      (target : operation.target = some b) (hne : a ≠ b) (ha : s.resources.get a = some ra)
      (hb : s.resources.get b = some rb) (shares : machine.shares ra.view rb.view)
  | repeated {a b : String} {ra rb : RuntimeResource} {previous : RuntimeOperation}
      (policy : decision.policy = .deduplicateIdenticalTransfer)
      (transfers : operation.type.transfers = true) (source : operation.source = some a)
      (target : operation.target = some b) (hne : a ≠ b) (ha : s.resources.get a = some ra)
      (hb : s.resources.get b = some rb) (apart : ¬ machine.shares ra.view rb.view)
      (copy : s.lastCopyByTarget.lookup b = some previous)
      (same : sameTransfer operation previous = true)
  | orphan (policy : decision.policy = .removeOrphanSync) (sync : operation.type = .sync)
      (waits : operation.dependsOn ≠ []) (removed : ∀ dep ∈ operation.dependsOn, dep ∈ s.removedIds)
  | empty (policy : decision.policy = .removeEmptySync) (sync : operation.type = .sync)
      (free : operation.costMs ≤ 0) (waits : operation.dependsOn = [])
  | reuse {previous : RuntimeOperation} (policy : decision.policy = .reuseTransientBuffer)
      (allocates : operation.type = .allocate)
      (buffer : s.activeBuffers.lookup (operation.target, operation.sizeMb) = some previous)
      (frame : previous.frame = operation.frame)

/-- A decision about a transfer is by one of its three policies, with what the policy
requires. -/
theorem decideTransfer_spec {s : RuntimeOptimizationState} {operation : RuntimeOperation}
    {a b : String} {ra rb : RuntimeResource} {decision : RuntimeDecision}
    (htransfers : operation.type.transfers = true) (ha : operation.source = some a)
    (hb : operation.target = some b) (hra : s.resources.get a = some ra)
    (hrb : s.resources.get b = some rb)
    (h : decideTransfer s operation ra rb = some decision) : Decided s operation decision := by
  unfold decideTransfer at h
  rw [ha, hb] at h
  by_cases hsame : (some a : Option String) = some b
  · rw [if_pos hsame, Option.some.injEq] at h
    obtain rfl : a = b := Option.some.inj hsame
    exact .selfCopy (h ▸ rfl) htransfers ha hb (by simp [hra])
  have hne : a ≠ b := fun hab => hsame (congrArg some hab)
  rw [if_neg hsame] at h
  by_cases hshare : rb.memory = ra.memory ∧ aliasesMeet rb ra = true
  · rw [if_pos hshare, Option.some.injEq] at h
    have hshares := shares_symm ((aliasesMeet_iff hshare.1).mp hshare.2)
    exact .aliased (h ▸ rfl) htransfers ha hb hne hra hrb hshares
  have hapart : ¬ machine.shares ra.view rb.view := by
    intro hs
    exact hshare ⟨hs.1.symm, (aliasesMeet_iff hs.1.symm).mpr (shares_symm hs)⟩
  rw [if_neg hshare] at h
  by_cases hcopy : (s.lastCopy (some b)).any (sameTransfer operation) = true
  · rw [if_pos hcopy, Option.some.injEq] at h
    obtain ⟨previous, hprevious, hsameTransfer⟩ := (Option.any_eq_true _ _).mp hcopy
    exact .repeated (h ▸ rfl) htransfers ha hb hne hra hrb hapart hprevious hsameTransfer
  · rw [if_neg hcopy] at h
    cases h

/-- A decision about an operation is by a policy, with what the policy requires. -/
theorem decideOperation_spec {s : RuntimeOptimizationState} {operation : RuntimeOperation}
    {decision : RuntimeDecision} (h : decideOperation casing s operation = some decision) :
    Decided s operation decision := by
  have htransfer : ∀ {ra rb : RuntimeResource}, operation.type.transfers = true →
      operation.source.bind s.resources.get = some ra →
      operation.target.bind s.resources.get = some rb →
      decideTransfer s operation ra rb = some decision → Decided s operation decision := by
    intro ra rb htransfers ha hb h
    obtain ⟨a, hsource, hra⟩ := Option.bind_eq_some_iff.mp ha
    obtain ⟨b, htarget, hrb⟩ := Option.bind_eq_some_iff.mp hb
    exact decideTransfer_spec htransfers hsource htarget hra hrb h
  unfold decideOperation at h
  cases htype : operation.type with
  | copy =>
      rw [htype] at h
      dsimp only at h
      split at h
      · next ha hb => exact htransfer (by rw [htype]; rfl) ha hb h
      · cases h
  | upload =>
      rw [htype] at h
      dsimp only at h
      split at h
      · next ha hb => exact htransfer (by rw [htype]; rfl) ha hb h
      · cases h
  | sync =>
      rw [htype] at h
      dsimp only [decideSync] at h
      split_ifs at h with hremoved hempty
      · exact .orphan (Option.some.inj h ▸ rfl) htype hremoved.1 hremoved.2
      · exact .empty (Option.some.inj h ▸ rfl) htype hempty.1 hempty.2
  | allocate =>
      rw [htype] at h
      dsimp only [decideAllocate] at h
      split_ifs at h with hreuse
      obtain ⟨previous, hprevious, hsame⟩ := (Option.any_eq_true _ _).mp hreuse
      rw [Bool.and_eq_true, beq_iff_eq] at hsame
      exact .reuse (Option.some.inj h ▸ rfl) htype hprevious hsame.1
  | present => rw [htype] at h; cases h
  | compute => rw [htype] at h; cases h
  | draw => rw [htype] at h; cases h

namespace RuntimeOptimizationState

/-! ## Submitting an operation -/

/-- The operation as it is kept: its dependencies are rewritten. -/
def rewritten (s : RuntimeOptimizationState) (operation : RuntimeOperation) : RuntimeOperation :=
  { operation with dependsOn := s.dependencies operation }

/-- The state that has taken notice of an operation's identity. -/
def submitted (s : RuntimeOptimizationState) (operation : RuntimeOperation) :
    RuntimeOptimizationState :=
  { s with operationIds := insert operation.id s.operationIds }

/-- Everything that submitting an operation can do. -/
inductive Processed (s : RuntimeOptimizationState) (operation : RuntimeOperation) :
    Except String (RuntimeOperation × Option RuntimeDecision) → RuntimeOptimizationState → Prop
  | duplicate (known : operation.id ∈ s.operationIds) :
      Processed s operation (.error ("Duplicate operation id: " ++ operation.id)) s
  | eliminated (fresh : operation.id ∉ s.operationIds) (decision : RuntimeDecision)
      (choice : decideOperation casing s operation = some decision) :
      Processed s operation (.ok (s.rewritten operation, some decision))
        ((s.submitted operation).eliminate (s.rewritten operation) decision
          (s.dependencies operation))
  | executed (fresh : operation.id ∉ s.operationIds)
      (choice : decideOperation casing s operation = none) :
      Processed s operation (.ok (s.rewritten operation, none))
        ((s.submitted operation).execute (s.rewritten operation))

/-- An operation whose identity is known is refused and changes nothing. -/
theorem process_duplicate {s : RuntimeOptimizationState} {operation : RuntimeOperation}
    (known : operation.id ∈ s.operationIds) :
    s.process casing operation = (.error ("Duplicate operation id: " ++ operation.id), s) := by
  unfold process
  rw [if_pos known]

/-- An operation that is decided is eliminated, with its dependencies rewritten. -/
theorem process_eliminated {s : RuntimeOptimizationState} {operation : RuntimeOperation}
    {decision : RuntimeDecision} (fresh : operation.id ∉ s.operationIds)
    (choice : decideOperation casing s operation = some decision) :
    s.process casing operation = (.ok (s.rewritten operation, some decision),
      (s.submitted operation).eliminate (s.rewritten operation) decision
        (s.dependencies operation)) := by
  unfold process
  rw [if_neg fresh]
  simp only [choice]
  rfl

/-- An operation that is not decided is executed, with its dependencies rewritten. -/
theorem process_executed {s : RuntimeOptimizationState} {operation : RuntimeOperation}
    (fresh : operation.id ∉ s.operationIds)
    (choice : decideOperation casing s operation = none) :
    s.process casing operation = (.ok (s.rewritten operation, none),
      (s.submitted operation).execute (s.rewritten operation)) := by
  unfold process
  rw [if_neg fresh]
  simp only [choice]
  rfl

/-- What `process` does with an operation: refuse, eliminate or execute it. -/
theorem process_spec (s : RuntimeOptimizationState) (operation : RuntimeOperation) :
    s.Processed casing operation (s.process casing operation).1 (s.process casing operation).2 := by
  by_cases hknown : operation.id ∈ s.operationIds
  · rw [process_duplicate casing hknown]
    exact .duplicate hknown
  cases hchoice : decideOperation casing s operation with
  | some decision =>
      rw [process_eliminated casing hknown hchoice]
      exact .eliminated hknown decision hchoice
  | none =>
      rw [process_executed casing hknown hchoice]
      exact .executed hknown hchoice

/-- Taking notice of an identity keeps a state valid. -/
theorem submitted_valid {s : RuntimeOptimizationState} (hs : s.Valid)
    (operation : RuntimeOperation) : (s.submitted operation).Valid :=
  ⟨hs.copyTarget, hs.bufferKey, hs.bufferTarget, hs.bufferUnique⟩

/-- Eliminating an operation keeps a state valid: no resource and no remembered transfer
changes. -/
theorem eliminate_valid {s : RuntimeOptimizationState} (hs : s.Valid)
    (operation : RuntimeOperation) (decision : RuntimeDecision) (dependencies : List String) :
    (s.eliminate operation decision dependencies).Valid :=
  ⟨hs.copyTarget, hs.bufferKey, hs.bufferTarget, hs.bufferUnique⟩

variable {casing}

/-- Every outcome of `process` keeps a state valid. -/
theorem Processed.valid {s s' : RuntimeOptimizationState} {operation : RuntimeOperation}
    {out : Except String (RuntimeOperation × Option RuntimeDecision)}
    (h : s.Processed casing operation out s') (hs : s.Valid) : s'.Valid := by
  cases h with
  | duplicate => exact hs
  | eliminated _ decision _ => exact eliminate_valid (submitted_valid hs operation) _ _ _
  | executed => exact (submitted_valid hs operation).execute _

/-- **Submitting an operation is one step of the ledger.** -/
theorem Processed.ledger {s s' : RuntimeOptimizationState} {operation : RuntimeOperation}
    {out : Except String (RuntimeOperation × Option RuntimeDecision)}
    (h : s.Processed casing operation out s') :
    s'.ledger = s.ledger.step machine
      (match out with
        | .ok (rewritten, none) => effect rewritten
        | _ => .pass) := by
  cases h with
  | duplicate => rfl
  | eliminated => rfl
  | executed => exact ledger_execute _ _

/-! ## The log of everything submitted -/

/-- For each id that was submitted: whether it was eliminated, and the list
stored in its place. -/
def table (s : RuntimeOptimizationState) : Table String := fun id =>
  if id ∈ s.operationIds then
    some ((s.replacements.lookup id).isSome, (s.replacements.lookup id).getD [])
  else none

/-- The entry that an accepted operation adds to the log. -/
def entry (casing : Casing) (s : RuntimeOptimizationState) (operation : RuntimeOperation) :
    Entry String :=
  let decision := decideOperation casing s operation
  { id := operation.id
    eliminated := decision.isSome
    retained := decision.bind fun d => (s.retained operation d.policy).map RuntimeOperation.id
    dependencies := operation.dependsOn }

/-- What the log and the state have in common. -/
structure Logged (s : RuntimeOptimizationState) (log : List (Entry String)) : Prop where
  agrees : Agrees log s.table
  replaced : ∀ {id names}, s.replacements.lookup id = some names → id ∈ s.operationIds
  removed : ∀ {id}, id ∈ s.removedIds ↔ s.replacements.lookup id = some []
  copies : ∀ {t op}, s.lastCopyByTarget.lookup t = some op → s.table op.id = some (false, [])
  buffers : ∀ {key op}, s.activeBuffers.lookup key = some op → s.table op.id = some (false, [])
  retained : ∀ e ∈ log, ∀ r, e.retained = some r → ∃ d ∈ log, d.id = r ∧ d.eliminated = false

/-- States with the same names have the same replacements, removals and identities. -/
theorem names_eq {s s' : RuntimeOptimizationState} (h : s'.names = s.names) :
    s'.replacements = s.replacements ∧ s'.removedIds = s.removedIds ∧
      s'.operationIds = s.operationIds :=
  ⟨congrArg Names.replacements h, congrArg Names.removedIds h, congrArg Names.operationIds h⟩

/-- The table of a state depends on its names only. -/
theorem table_congr {s s' : RuntimeOptimizationState} (h : s'.names = s.names) :
    s'.table = s.table := by
  obtain ⟨hreplaced, -, hids⟩ := names_eq h
  funext id
  simp only [table, hids, hreplaced]

/-- The lists that stand for dependencies are those of the table. -/
theorem Logged.expand_eq {s : RuntimeOptimizationState} {log : List (Entry String)}
    (h : s.Logged log) (d : String) :
    (s.replacements.lookup d).getD [d] = Resolution.expand s.table d := by
  unfold Resolution.expand table
  cases hd : s.replacements.lookup d with
  | none => by_cases hknown : d ∈ s.operationIds <;> simp [hknown]
  | some names => simp [h.replaced hd]

/-- The dependencies of an operation are rewritten by the table, each name once. -/
theorem Logged.dependencies_eq {s : RuntimeOptimizationState} {log : List (Entry String)}
    (h : s.Logged log) (operation : RuntimeOperation) :
    s.dependencies operation =
      firsts (operation.dependsOn.flatMap (Resolution.expand s.table)) := by
  unfold dependencies
  have hexpand : (fun d => (s.replacements.lookup d).getD [d]) = Resolution.expand s.table :=
    funext h.expand_eq
  rw [hexpand]

/-- An operation in the table that was not eliminated is in the log. -/
theorem Logged.mem_of_executed {s : RuntimeOptimizationState} {log : List (Entry String)}
    (h : s.Logged log) {id : String} (hid : s.table id = some (false, [])) :
    ∃ d ∈ log, d.id = id ∧ d.eliminated = false := by
  have hknown : ¬ ∀ e ∈ log, e.id ≠ id := by
    rw [← h.agrees.known id, hid]
    simp
  push Not at hknown
  obtain ⟨d, hd, rfl⟩ := hknown
  have hnot : eliminatedIn log d.id = false := (h.agrees.eliminated hid).symm
  unfold eliminatedIn at hnot
  rw [List.any_eq_false] at hnot
  exact ⟨d, hd, rfl, by simpa using hnot d hd⟩

/-- What is retained for an eliminated operation was executed. -/
theorem Logged.retained_executed {s : RuntimeOptimizationState} {log : List (Entry String)}
    (h : s.Logged log) {operation r : RuntimeOperation} {policy : Policy}
    (hr : s.retained operation policy = some r) : s.table r.id = some (false, []) := by
  unfold RuntimeOptimizationState.retained at hr
  cases policy with
  | deduplicateIdenticalTransfer =>
      obtain ⟨t, -, ht⟩ := Option.bind_eq_some_iff.mp hr
      exact h.copies ht
  | collapseAliasedResourceCopy =>
      obtain ⟨t, -, ht⟩ := Option.bind_eq_some_iff.mp hr
      exact h.copies ht
  | reuseTransientBuffer => exact h.buffers hr
  | _ => cases hr

/-- The table has an entry exactly for the identities that are known. -/
theorem table_eq_none {s : RuntimeOptimizationState} {id : String} :
    s.table id = none ↔ id ∉ s.operationIds := by
  unfold table
  split <;> simp_all

/-- A fresh operation has no list stored yet. -/
theorem Logged.replacements_fresh {s : RuntimeOptimizationState} {log : List (Entry String)}
    (h : s.Logged log) {id : String} (hfresh : id ∉ s.operationIds) :
    s.replacements.lookup id = none := by
  by_contra hne
  obtain ⟨names, hnames⟩ := Option.ne_none_iff_exists'.mp hne
  exact hfresh (h.replaced hnames)

/-- The table after an elimination. -/
theorem eliminate_table (s : RuntimeOptimizationState) (operation : RuntimeOperation)
    (decision : RuntimeDecision) (dependencies : List String) :
    ((s.submitted operation).eliminate operation decision dependencies).table =
      Function.update s.table operation.id (some (true,
        firsts (((s.retained operation decision.policy).map RuntimeOperation.id).toList ++
          dependencies))) := by
  funext id
  by_cases hid : id = operation.id
  · subst hid
    simp [table, eliminate, submitted, retained]
  · simp [table, eliminate, submitted, AList.lookup_insert_ne hid, hid]

/-- The table after an executed operation. -/
theorem Logged.execute_table {s : RuntimeOptimizationState} {log : List (Entry String)}
    (h : s.Logged log) {operation : RuntimeOperation} (rewritten : RuntimeOperation)
    (hfresh : operation.id ∉ s.operationIds) :
    ((s.submitted operation).execute rewritten).table =
      Function.update s.table operation.id (some (false, [])) := by
  rw [table_congr (execute_names (s.submitted operation) rewritten)]
  funext id
  by_cases hid : id = operation.id
  · subst hid
    simp [table, submitted, h.replacements_fresh hfresh]
  · simp [table, submitted, hid]

/-- An id that is in the table already keeps its entry. -/
theorem table_update {s : RuntimeOptimizationState} {operation : RuntimeOperation}
    {entry : Option (Bool × List String)} (hfresh : operation.id ∉ s.operationIds) {id : String}
    (hid : s.table id = some (false, [])) :
    Function.update s.table operation.id entry id = some (false, []) := by
  have hne : id ≠ operation.id := by
    intro heq
    rw [heq, table_eq_none.mpr hfresh] at hid
    cases hid
  rw [Function.update_of_ne hne]
  exact hid

/-- One entry more keeps it so that what is retained was executed, if the entry does. -/
theorem log_retained {log : List (Entry String)} {e : Entry String}
    (hlog : ∀ x ∈ log, ∀ r, x.retained = some r → ∃ d ∈ log, d.id = r ∧ d.eliminated = false)
    (he : ∀ r, e.retained = some r → ∃ d ∈ log, d.id = r ∧ d.eliminated = false) :
    ∀ x ∈ e :: log, ∀ r, x.retained = some r →
      ∃ d ∈ e :: log, d.id = r ∧ d.eliminated = false := by
  intro x hx r hr
  have hold : ∃ d ∈ log, d.id = r ∧ d.eliminated = false := by
    rcases List.mem_cons.mp hx with rfl | hx
    · exact he r hr
    · exact hlog x hx r hr
  obtain ⟨d, hd, hrest⟩ := hold
  exact ⟨d, List.mem_cons_of_mem _ hd, hrest⟩

/-- The table after an elimination holds the flattened list of the entry. -/
theorem Logged.eliminated_table {s : RuntimeOptimizationState} {log : List (Entry String)}
    (h : s.Logged log) {operation : RuntimeOperation} {decision : RuntimeDecision}
    (hchoice : decideOperation casing s operation = some decision) :
    ((s.submitted operation).eliminate (s.rewritten operation) decision
      (s.dependencies operation)).table =
      Function.update s.table operation.id
        (some (true, flatten s.table (s.entry casing operation))) := by
  have htable := s.eliminate_table (s.rewritten operation) decision (s.dependencies operation)
  have hretained : s.retained (s.rewritten operation) decision.policy =
      s.retained operation decision.policy := by
    cases decision.policy <;> rfl
  have hnames : firsts (((s.retained operation decision.policy).map RuntimeOperation.id).toList ++
      s.dependencies operation) = flatten s.table (s.entry casing operation) := by
    -- removing repetitions from the dependencies first changes nothing
    rw [h.dependencies_eq]
    simp only [flatten, entry, hchoice, Option.bind_some, firsts, List.foldl_append]
    exact foldl_firsts
  rw [hretained, hnames] at htable
  exact htable

/-- Recording an eliminated operation keeps the log in agreement. -/
theorem Logged.eliminate {s : RuntimeOptimizationState} {log : List (Entry String)}
    (h : s.Logged log) {operation : RuntimeOperation} {decision : RuntimeDecision}
    (hfresh : operation.id ∉ s.operationIds)
    (hchoice : decideOperation casing s operation = some decision) :
    ((s.submitted operation).eliminate (s.rewritten operation) decision
      (s.dependencies operation)).Logged (s.entry casing operation :: log) := by
  have htable := h.eliminated_table hchoice
  have hentry : (s.entry casing operation).eliminated = true := by simp [entry, hchoice]
  refine ⟨?_, ?_, ?_, ?_, ?_, ?_⟩
  · rw [htable]
    have hinsert := h.agrees.insert (s.entry casing operation) (table_eq_none.mpr hfresh)
      (fun _ => rfl)
    rw [hentry] at hinsert
    exact hinsert
  · intro id names hid
    change (s.replacements.insert operation.id _).lookup id = some names at hid
    change id ∈ insert operation.id s.operationIds
    by_cases hne : id = operation.id
    · simp [hne]
    · rw [AList.lookup_insert_ne hne] at hid
      exact Finset.mem_insert_of_mem (h.replaced hid)
  · intro id
    have hkept := h.replacements_fresh hfresh
    have hnot : operation.id ∉ s.removedIds := by
      rw [h.removed, hkept]
      simp
    change id ∈ (if _ then insert operation.id s.removedIds else s.removedIds) ↔
      (s.replacements.insert operation.id (firsts _)).lookup id = some []
    by_cases hne : id = operation.id
    · subst hne
      rw [AList.lookup_insert, Option.some.injEq, firsts_eq_nil]
      split_ifs with hempty
      · exact iff_of_true (Finset.mem_insert_self _ _) hempty
      · exact iff_of_false hnot hempty
    · rw [AList.lookup_insert_ne hne, ← h.removed]
      split_ifs
      · simp [hne]
      · rfl
  · intro t op hcopy
    rw [htable]
    exact table_update hfresh (h.copies hcopy)
  · intro key op hbuffer
    rw [htable]
    exact table_update hfresh (h.buffers hbuffer)
  · refine log_retained h.retained ?_
    intro r hr
    simp only [entry, hchoice, Option.bind_some, Option.map_eq_some_iff] at hr
    obtain ⟨op, hop, rfl⟩ := hr
    exact h.mem_of_executed (h.retained_executed hop)

/-- Recording an executed operation keeps the log in agreement. -/
theorem Logged.execute {s : RuntimeOptimizationState} {log : List (Entry String)}
    (h : s.Logged log) {operation : RuntimeOperation} (hfresh : operation.id ∉ s.operationIds)
    (hchoice : decideOperation casing s operation = none) :
    ((s.submitted operation).execute (s.rewritten operation)).Logged
      (s.entry casing operation :: log) := by
  have htable := h.execute_table (s.rewritten operation) hfresh
  obtain ⟨hreplaced, hremoved, hids⟩ :=
    names_eq (execute_names (s.submitted operation) (s.rewritten operation))
  have hself : Function.update s.table operation.id (some (false, [])) operation.id =
      some (false, []) := Function.update_self _ _ _
  refine ⟨?_, ?_, ?_, ?_, ?_, ?_⟩
  · rw [htable]
    have hentry : (s.entry casing operation).eliminated = false := by simp [entry, hchoice]
    have hinsert := h.agrees.insert (s.entry casing operation) (table_eq_none.mpr hfresh)
      (fun hf => absurd (hentry.symm.trans hf) (by simp) : _ → ([] : List String) = _)
    rw [hentry] at hinsert
    exact hinsert
  · intro id names hid
    rw [hreplaced] at hid
    rw [hids]
    exact Finset.mem_insert_of_mem (h.replaced hid)
  · intro id
    rw [hreplaced, hremoved]
    exact h.removed
  · intro t op hcopy
    have hledger : ((s.submitted operation).execute (s.rewritten operation)).ledger.copy t =
        some op := hcopy
    rw [ledger_execute, Ledger.step_copy_iff] at hledger
    rw [htable]
    rcases hledger with ⟨hnew, -⟩ | ⟨hold, -⟩
    · unfold effect at hnew
      split_ifs at hnew
      rw [Act.transfer.injEq] at hnew
      rw [← hnew.2]
      exact hself
    · exact table_update hfresh (h.copies hold)
  · intro key op hbuffer
    rw [execute_buffers] at hbuffer
    rw [htable]
    split_ifs at hbuffer
    · rw [← Option.some.inj hbuffer]
      exact hself
    · exact table_update hfresh (h.buffers hbuffer)
  · refine log_retained h.retained ?_
    intro r hr
    simp [entry, hchoice] at hr

/-- **Every accepted operation adds its entry to the log.** -/
theorem Processed.logged {s s' : RuntimeOptimizationState} {operation : RuntimeOperation}
    {accepted : RuntimeOperation × Option RuntimeDecision} {log : List (Entry String)}
    (h : s.Processed casing operation (.ok accepted) s') (hs : s.Logged log) :
    s'.Logged (s.entry casing operation :: log) := by
  cases h with
  | eliminated fresh decision choice => exact hs.eliminate fresh choice
  | executed fresh choice => exact hs.execute fresh choice

/-- Registering a resource changes nothing that the log says. -/
theorem Logged.register {s : RuntimeOptimizationState} {log : List (Entry String)}
    (h : s.Logged log) (r : RuntimeResource) :
    ({ s with resources := s.resources.insert r } : RuntimeOptimizationState).Logged log :=
  ⟨h.agrees, h.replaced, h.removed, h.copies, h.buffers, h.retained⟩

/-- Releasing a resource changes nothing that the log says: forgotten transfers need no
entry. -/
theorem Logged.release {s : RuntimeOptimizationState} {log : List (Entry String)}
    (h : s.Logged log) (id : String) : (s.releaseResource id).2.Logged log := by
  have hnames : (s.releaseResource id).2.names = s.names :=
    invalidateResource_names s (some id)
  have htable := table_congr hnames
  obtain ⟨hreplaced, hremoved, hids⟩ := names_eq hnames
  refine ⟨htable ▸ h.agrees, ?_, ?_, ?_, ?_, h.retained⟩
  · intro k names hk
    rw [hreplaced] at hk
    rw [hids]
    exact h.replaced hk
  · intro k
    rw [hreplaced, hremoved]
    exact h.removed
  · intro t op hcopy
    have hledger : (s.invalidateResource (some id)).ledger.copy t = some op := hcopy
    rw [ledger_invalidate, Ledger.retire_copy_iff] at hledger
    rw [htable]
    exact h.copies hledger.1
  · intro key op hbuffer
    have hlook : ((s.invalidateResource (some id)).dropBuffers (some id)).activeBuffers.lookup key
        = some op := hbuffer
    rw [dropBuffers_lookup, invalidateResource_activeBuffers] at hlook
    rw [htable]
    split_ifs at hlook
    exact h.buffers hlook

/-- The state before anything is submitted. -/
theorem logged_start (resources : ResourceTable) :
    ({ resources } : RuntimeOptimizationState).Logged [] := by
  refine ⟨?_, ?_, ?_, ?_, ?_, ?_⟩
  · have htable : ({ resources } : RuntimeOptimizationState).table = fun _ => none := by
      funext id
      simp [table]
    rw [htable]
    exact Agrees.empty
  · intro id names h
    cases h
  · intro id
    refine iff_of_false (by simp) ?_
    intro h
    cases h
  · intro t op h
    cases h
  · intro key op h
    cases h
  · intro e he
    cases he

/-- A state without operations is valid. -/
theorem valid_start (resources : ResourceTable) :
    ({ resources } : RuntimeOptimizationState).Valid := by
  refine ⟨?_, ?_, ?_, ?_⟩
  · intro t op h
    cases h
  · intro key op h
    cases h
  · intro key op h
    cases h
  · intro t a b h
    exact absurd rfl h

end RuntimeOptimizationState

end FluidGateway.Runtime
