import FluidGateway.SessionEvents
import FluidGateway.WaitResolution
import FluidGateway.OptimizerLog

/-!
# When the two engines agree

The native state holds a pointer for each resource and a flat list for each
operation, the Python state dictionaries keyed by target and by target and
size.  `Agree` says that they hold the same: the ledgers are renamings of each
other, the remembered allocations correspond, and so do the tables of
flattened lists.  In states that agree, the same operation gets the same
decision (`Agree.choose`).
-/

namespace FluidGateway

open KeyedMap Provenance Resolution Native FluidGateway.Runtime

/-! ## The same data in both engines -/

/-- The same recorded operation.  What it depended on is not kept in the same
form, and not used again. -/
structure SameRecord (r : StoredOperation) (operation : RuntimeOperation) : Prop where
  id : r.id = utf8 operation.id
  source : r.source = utf8 (operation.source.getD "")
  named : operation.source ≠ some ""
  frame : r.frame.map Int.ofNat = operation.frame
  bytes : (r.bytes : ℚ) / mebibyte = operation.sizeMb
  queue : ∃ q : Queue, r.queue = q.code ∧ operation.queue = q.name

/-- The same submitted operation, with its effective frame. -/
structure SameRequest (op : Native.Operation) (operation : RuntimeOperation) : Prop where
  id : op.id = utf8 operation.id
  source : op.source = utf8 (operation.source.getD "")
  sourceNamed : operation.source ≠ some ""
  target : op.target = utf8 (operation.target.getD "")
  targetNamed : operation.target ≠ some ""
  reason : op.reason = utf8 operation.reason
  dependencies : op.dependencies = operation.dependsOn.map utf8
  frame : op.frame.map Int.ofNat = operation.frame
  bytes : (op.bytes : ℚ) / mebibyte = operation.sizeMb
  cost : (op.microseconds : ℚ) / 1000 = operation.costMs
  type : op.type = operation.type.code
  queue : ∃ q : Queue, op.queue = q.code ∧ operation.queue = q.name

/-- What both engines store of the same request is the same record. -/
theorem SameRequest.stored {op : Native.Operation} {operation : RuntimeOperation}
    (h : SameRequest op operation) (t : RuntimeOptimizationState) :
    SameRecord (State.stored op false [] false) (t.rewritten operation) :=
  ⟨h.id, h.source, h.sourceNamed, h.frame, h.bytes, h.queue⟩

/-- Ids, views and recorded transfers of the Python state, as the native state
writes them. -/
def engineNames : Renaming Text Native.View StoredOperation String Runtime.View RuntimeOperation where
  enc := utf8
  valid id := id ≠ ""
  view v v' := v.1 = v'.1.code ∧ v.2 = v'.2.map utf8
  record := SameRecord

/-- The native state writes no name as the empty text, which is no one's name. -/
theorem optional_name_inj {a b : Option String} (ha : a ≠ some "") (hb : b ≠ some "") :
    utf8 (a.getD "") = utf8 (b.getD "") ↔ a = b := by
  rw [utf8_inj]
  cases a <;> cases b <;> simp_all [eq_comm]

/-- The renaming keeps what the ledger looks at: ids, shared memory and the source of a
copy. -/
theorem engineNames_lawful : engineNames.Lawful Native.machine Runtime.machine where
  inj := utf8_injective
  shares := by
    intro a b a' b' ha hb
    obtain ⟨hamemory, haaliases⟩ := ha
    obtain ⟨hbmemory, hbaliases⟩ := hb
    have hmemory : a.1 = b.1 ↔ a'.1 = b'.1 := by
      rw [hamemory, hbmemory]
      exact ⟨MemoryLayer.code_inj, congrArg _⟩
    simp only [Native.machine, Runtime.machine, hmemory, haaliases, hbaliases, List.mem_map,
      exists_exists_and_eq_and, utf8_inj, exists_eq_right]
  source := by
    intro r operation h k hk
    simp only [Native.machine, Runtime.machine, Option.some.injEq, h.source]
    have hk' : some k ≠ some "" := fun hc => hk (Option.some.inj hc)
    exact optional_name_inj h.named hk'

/-- The allocation that a resource remembers. -/
def Native.State.allocation (s : State) (id : Text) : Option StoredOperation :=
  (s.resources.lookup id).bind fun r => s.deref r.allocation

/-- The allocation that the Python state remembers for a target. -/
def Runtime.RuntimeOptimizationState.Buffer (t : RuntimeOptimizationState) (id : String)
    (operation : RuntimeOperation) : Prop :=
  t.activeBuffers.lookup (some id, operation.sizeMb) = some operation

/-- A stored list, as the native state writes it. -/
def rename (entry : Bool × List String) : Bool × List Text :=
  (entry.1, entry.2.map utf8)

/-- The two states hold the same. -/
structure Agree (s : State) (t : RuntimeOptimizationState) : Prop where
  ledger : Sim engineNames s.ledger t.ledger
  allocation : ∀ {id r}, id ≠ "" → s.allocation (utf8 id) = some r →
    ∃ operation, t.Buffer id operation ∧ SameRecord r operation
  buffer : ∀ {id operation}, id ≠ "" → t.Buffer id operation →
    ∃ r, s.allocation (utf8 id) = some r ∧ SameRecord r operation
  table : ∀ id, s.table (utf8 id) = (t.table id).map rename

section Lookups

variable {s : State} {t : RuntimeOptimizationState}

/-- The same optional name leads to the same resource. -/
theorem Agree.resource (h : Agree s t) {x : Option String} (hx : x ≠ some "") :
    Option.Rel (fun r r' => engineNames.view r.view r'.view) (s.resources.lookup (utf8 (x.getD "")))
      (x.bind t.resources.get) := by
  cases x with
  | none =>
      have hnone : s.resources.lookup (utf8 "") = none := by
        by_contra hne
        obtain ⟨k, hk, hkey⟩ := h.ledger.range _ (mt State.ledger_res_eq_none.mp hne)
        exact hk (utf8_injective hkey).symm
      rw [Option.getD_none, hnone]
      exact .none
  | some id =>
      have hid : id ≠ "" := by simpa using hx
      have hres := h.ledger.res id hid
      have hnative : s.ledger.res (engineNames.enc id) =
          (s.resources.lookup (utf8 id)).map Resource.view := rfl
      have hpython : t.ledger.res id = (t.resources.get id).map RuntimeResource.view := rfl
      rw [hnative, hpython] at hres
      change Option.Rel _ (s.resources.lookup (utf8 id)) (t.resources.get id)
      cases hr : s.resources.lookup (utf8 id) <;> cases hr' : t.resources.get id <;>
        rw [hr, hr'] at hres
      · exact .none
      · cases hres
      · cases hres
      · rename_i r r'
        cases hres with
        | some hview => exact .some hview

/-- The same ids are registered. -/
theorem Agree.known_iff (h : Agree s t) {id : String} (hid : id ≠ "") :
    s.resources.lookup (utf8 id) = none ↔ t.resources.get id = none := by
  have hres := h.resource (fun hc => hid (Option.some.inj hc) : some id ≠ some "")
  exact rel_none_iff hres

/-- The same transfer is remembered for the same target. -/
theorem Agree.copy (h : Agree s t) {id : String} (hid : id ≠ "") :
    Option.Rel SameRecord (s.ledger.copy (utf8 id)) (t.lastCopyByTarget.lookup id) :=
  h.ledger.copy id hid

/-- The same id is remembered for the same target. -/
theorem Agree.copy_id (h : Agree s t) {id : String} (hid : id ≠ "") :
    (s.ledger.copy (utf8 id)).map StoredOperation.id =
      (t.lastCopyByTarget.lookup id).map fun operation => utf8 operation.id := by
  have hcopy := h.copy hid
  cases hr : s.ledger.copy (utf8 id) <;> cases hr' : t.lastCopyByTarget.lookup id <;>
    rw [hr, hr'] at hcopy
  · rfl
  · cases hcopy
  · cases hcopy
  · rename_i r operation
    cases hcopy with
    | some hsame => exact congrArg some hsame.id

/-- The same operations are recorded as eliminated with nothing left. -/
theorem Agree.removed_iff (h : Agree s t) {log : List (Entry Text)} (hs : Recorded s log)
    {log' : List (Entry String)} (ht : t.Logged log') (d : String) :
    (s.operations.lookup (utf8 d)).any StoredOperation.removed = true ↔ d ∈ t.removedIds := by
  have hnative : (s.operations.lookup (utf8 d)).any StoredOperation.removed = true ↔
      s.table (utf8 d) = some (true, []) := by
    unfold State.table
    cases hop : s.operations.lookup (utf8 d) with
    | none => simp
    | some op =>
        rw [Option.any_some, hs.removed hop, Option.map_some, Option.some.injEq, Prod.mk.injEq]
  have hpython : d ∈ t.removedIds ↔ t.table d = some (true, []) := by
    rw [ht.removed]
    unfold RuntimeOptimizationState.table
    constructor
    · intro hd
      simp [ht.replaced hd, hd]
    · intro hd
      split_ifs at hd with hknown
      rw [Option.some.injEq, Prod.mk.injEq, Option.isSome_iff_exists] at hd
      obtain ⟨⟨names, hnames⟩, hempty⟩ := hd
      rw [hnames, Option.getD_some] at hempty
      rw [hnames, hempty]
  rw [hnative, hpython, h.table d]
  cases t.table d with
  | none => simp
  | some entry =>
      obtain ⟨b, names⟩ := entry
      simp [rename]

end Lookups

/-! ## Decisions -/

/-- The same decision on a submitted operation, with the same operation
retained in its place. -/
inductive SameChoice (t : RuntimeOptimizationState) (op : Native.Operation)
    (operation : RuntimeOperation) : UInt8 × Option Text → Option RuntimeDecision → Prop
  | execute : SameChoice t op operation (0, none) none
  | eliminate (decision : RuntimeDecision) {code : UInt8} {retained : Option Text}
      (policy : code = decision.policy.code)
      (same : retained =
        (t.retained operation decision.policy).map fun kept => utf8 kept.id)
      (ms : (op.microseconds : ℚ) / 1000 = decision.estimatedSavedMs)
      (mb : ((if op.type ≠ 2 then op.bytes else 0 : Nat) : ℚ) / mebibyte =
        decision.estimatedSavedMb) :
      SameChoice t op operation (code, retained) (some decision)

section Choices

variable {casing : Casing} {s : State} {t : RuntimeOptimizationState} {op : Native.Operation}
  {operation : RuntimeOperation}

/-- Sizes are the same in megabytes when they are in bytes. -/
theorem megabytes_inj {a b : Nat} : (a : ℚ) / mebibyte = b / mebibyte ↔ a = b := by
  have hpos : mebibyte ≠ 0 := by
    unfold mebibyte
    norm_num
  rw [div_left_inj' hpos, Nat.cast_inj]

/-- Frames are the same as integers when they are as numbers. -/
theorem frame_inj {a b : Option Nat} : a.map Int.ofNat = b.map Int.ofNat ↔ a = b :=
  (Option.map_injective fun _ _ h => Int.ofNat.inj h).eq_iff

/-- The two engines compare sizes in their own units, with one result. -/
theorem SameRequest.sameBytes (h : SameRequest op operation) {r : StoredOperation}
    {previous : RuntimeOperation} (hr : SameRecord r previous) :
    r.bytes = op.bytes ↔ previous.sizeMb = operation.sizeMb := by
  rw [← hr.bytes, ← h.bytes, megabytes_inj]

/-- The two engines compare frames with one result. -/
theorem SameRequest.sameFrame (h : SameRequest op operation) {r : StoredOperation}
    {previous : RuntimeOperation} (hr : SameRecord r previous) :
    r.frame = op.frame ↔ previous.frame = operation.frame := by
  rw [← hr.frame, ← h.frame, frame_inj]

/-- A remembered transfer compares with a submitted one in the same way. -/
theorem SameRequest.sameTransfer (h : SameRequest op operation) {r : StoredOperation}
    {previous : RuntimeOperation} (hr : SameRecord r previous) :
    State.sameTransfer op r = Runtime.sameTransfer operation previous := by
  have hsource : r.source = op.source ↔ previous.source = operation.source := by
    rw [hr.source, h.source]
    exact optional_name_inj hr.named h.sourceNamed
  have hqueue : r.queue = op.queue ↔ previous.queue = operation.queue := by
    obtain ⟨q, hq, hname⟩ := hr.queue
    obtain ⟨q', hq', hname'⟩ := h.queue
    rw [hq, hq', hname, hname']
    exact Queue.code_eq_iff
  rw [Bool.eq_iff_iff]
  simp only [State.sameTransfer, Runtime.sameTransfer, Bool.and_eq_true, beq_iff_eq, hsource,
    hqueue, h.sameBytes hr, h.sameFrame hr]

/-- A test of what is remembered, where both remember the same. -/
theorem any_eq_of_rel {a : Option StoredOperation} {b : Option RuntimeOperation}
    (h : Option.Rel SameRecord a b) {p : StoredOperation → Bool} {q : RuntimeOperation → Bool}
    (hpq : ∀ r previous, SameRecord r previous → p r = q previous) : a.any p = b.any q := by
  cases h with
  | none => rfl
  | some hr => exact hpq _ _ hr

/-- For a copy and for an upload `decide_operation` looks at both registered ends. -/
theorem decideOperation_transfer (htransfers : operation.type.transfers = true) :
    decideOperation casing t operation =
      match operation.source.bind t.resources.get, operation.target.bind t.resources.get with
      | some source, some target => decideTransfer t operation source target
      | _, _ => none := by
  unfold decideOperation
  cases htype : operation.type <;> rw [htype] at htransfers <;> first | rfl | cases htransfers

/-- The codes of the operations that transfer. -/
theorem transfers_iff (h : SameRequest op operation) :
    (op.type = 1 ∨ op.type = 4) ↔ operation.type.transfers = true := by
  rw [h.type]
  cases operation.type <;> decide

/-- Transfers: neither end known, nothing shared, a copy that repeats the last one, or one
to be executed. -/
theorem Agree.choose_transfer (h : Agree s t) (hs : s.Valid) (hreq : SameRequest op operation)
    (htransfers : operation.type.transfers = true) :
    SameChoice t op operation (s.choose op) (decideOperation casing t operation) := by
  have htype := (transfers_iff hreq).mpr htransfers
  have hbytes : ((if op.type ≠ 2 then op.bytes else 0 : Nat) : ℚ) / mebibyte =
      operation.sizeMb := by
    rw [if_pos (by rcases htype with h | h <;> rw [h] <;> decide), hreq.bytes]
  have hsource := h.resource hreq.sourceNamed
  have htarget := h.resource hreq.targetNamed
  rw [← hreq.source] at hsource
  rw [← hreq.target] at htarget
  rw [decideOperation_transfer htransfers]
  unfold State.choose
  rw [if_pos htype]
  cases ha : s.resources.lookup op.source <;> cases ha' : operation.source.bind t.resources.get <;>
    rw [ha, ha'] at hsource
  · exact .execute
  · cases hsource
  · cases hsource
  cases hb : s.resources.lookup op.target <;> cases hb' : operation.target.bind t.resources.get <;>
    rw [hb, hb'] at htarget
  · exact .execute
  · cases htarget
  · cases htarget
  rename_i ra ra' rb rb'
  obtain ⟨a, hopa, hra'⟩ := Option.bind_eq_some_iff.mp ha'
  obtain ⟨b, hopb, hrb'⟩ := Option.bind_eq_some_iff.mp hb'
  have hane : a ≠ "" := fun hc => hreq.sourceNamed (hc ▸ hopa)
  have hbne : b ≠ "" := fun hc => hreq.targetNamed (hc ▸ hopb)
  have hra : s.resources.lookup (utf8 a) = some ra := by
    rw [← ha, hreq.source, hopa, Option.getD_some]
  have hrb : s.resources.lookup (utf8 b) = some rb := by
    rw [← hb, hreq.target, hopb, Option.getD_some]
  have hviewa : engineNames.view ra.view ra'.view := by
    cases hsource with
    | some hview => exact hview
  have hviewb : engineNames.view rb.view rb'.view := by
    cases htarget with
    | some hview => exact hview
  -- the three tests of both engines, one after the other
  have hself : op.source = op.target ↔ operation.source = operation.target := by
    rw [hreq.source, hreq.target]
    exact optional_name_inj hreq.sourceNamed hreq.targetNamed
  have halias : aliasesIntersect ra rb = true ↔
      rb'.memory = ra'.memory ∧ aliasesMeet rb' ra' = true := by
    rw [aliasesIntersect_iff, engineNames_lawful.shares hviewa hviewb]
    constructor
    · intro hshare
      exact ⟨hshare.1.symm, (aliasesMeet_iff hshare.1.symm).mpr (shares_symm hshare)⟩
    · intro hmeet
      exact shares_symm ((aliasesMeet_iff hmeet.1).mp hmeet.2)
  have hlast : t.lastCopy operation.target = t.lastCopyByTarget.lookup b := by
    unfold RuntimeOptimizationState.lastCopy
    rw [hopb, Option.getD_some]
  have hcopyb : s.ledger.copy (utf8 b) = s.deref rb.copy := by
    simp [State.ledger, hrb]
  have hdedup : (s.deref rb.copy).any (State.sameTransfer op) =
      (t.lastCopy operation.target).any (Runtime.sameTransfer operation) := by
    rw [hlast, ← hcopyb]
    exact any_eq_of_rel (h.copy hbne) fun r previous hr => hreq.sameTransfer hr
  dsimp only
  unfold decideTransfer
  by_cases hsame : op.source = op.target
  · rw [if_pos hsame, if_pos (hself.mp hsame)]
    exact .eliminate _ rfl rfl hreq.cost hbytes
  rw [if_neg hsame, if_neg fun hc => hsame (hself.mpr hc)]
  by_cases hshare : aliasesIntersect ra rb = true
  · rw [if_pos hshare, if_pos (halias.mp hshare)]
    refine .eliminate _ rfl ?_ hreq.cost hbytes
    have hretained : t.retained operation .collapseAliasedResourceCopy =
        t.lastCopyByTarget.lookup a := by
      simp only [RuntimeOptimizationState.retained, hopa, Option.bind_some]
    change ra.copy = (t.retained operation .collapseAliasedResourceCopy).map _
    rw [hretained, ← h.copy_id hane, hs.copy_id hra]
  rw [if_neg hshare, if_neg fun hc => hshare (halias.mpr hc), hdedup]
  by_cases hcopy : (t.lastCopy operation.target).any (Runtime.sameTransfer operation) = true
  · rw [if_pos hcopy, if_pos hcopy]
    refine .eliminate _ rfl ?_ hreq.cost hbytes
    have hretained : t.retained operation .deduplicateIdenticalTransfer =
        t.lastCopyByTarget.lookup b := by
      simp only [RuntimeOptimizationState.retained, hopb, Option.bind_some]
    change rb.copy = (t.retained operation .deduplicateIdenticalTransfer).map _
    rw [hretained, ← h.copy_id hbne, hs.copy_id hrb]
  · rw [if_neg hcopy, if_neg hcopy]
    exact .execute

/-- Waits: both engines look for dependencies that are left, in tables that agree. -/
theorem Agree.choose_sync (h : Agree s t) {log : List (Entry Text)} (hs : Recorded s log)
    {log' : List (Entry String)} (ht : t.Logged log') (hreq : SameRequest op operation)
    (htype : operation.type = .sync) :
    SameChoice t op operation (s.choose op) (decideOperation casing t operation) := by
  have hcode : op.type = 2 := by rw [hreq.type, htype]; rfl
  have hbytes : ((if op.type ≠ 2 then op.bytes else 0 : Nat) : ℚ) / mebibyte = 0 := by
    rw [hcode]
    simp
  have hempty : op.dependencies = [] ↔ operation.dependsOn = [] := by
    rw [hreq.dependencies, List.map_eq_nil_iff]
  have hremoved : s.allRemoved op.dependencies = true ↔
      operation.dependsOn ≠ [] ∧ ∀ dep ∈ operation.dependsOn, dep ∈ t.removedIds := by
    unfold State.allRemoved
    rw [Bool.and_eq_true, Bool.not_eq_true', List.isEmpty_eq_false_iff, List.all_eq_true,
      hreq.dependencies, ne_eq, List.map_eq_nil_iff, List.forall_mem_map]
    exact and_congr_right fun _ => forall₂_congr fun d _ => h.removed_iff hs ht d
  have hcost : op.microseconds = 0 ↔ operation.costMs ≤ 0 := by
    rw [← hreq.cost]
    constructor
    · intro hzero
      rw [hzero]
      norm_num
    · intro hle
      have hpos : (0 : ℚ) ≤ op.microseconds := Nat.cast_nonneg _
      have hzero : (op.microseconds : ℚ) = 0 := by linarith
      exact Nat.cast_eq_zero.mp hzero
  have hdecide : decideOperation casing t operation = decideSync t operation := by
    unfold decideOperation
    rw [htype]
  rw [hdecide]
  unfold State.choose decideSync
  rw [if_neg (by rw [hcode]; decide), if_pos hcode]
  by_cases horphan : s.allRemoved op.dependencies = true
  · rw [if_pos horphan, if_pos (hremoved.mp horphan)]
    exact .eliminate _ rfl rfl hreq.cost hbytes
  rw [if_neg horphan, if_neg fun hc => horphan (hremoved.mpr hc)]
  by_cases hnothing : op.microseconds = 0 ∧ op.dependencies = []
  · rw [if_pos hnothing, if_pos ⟨hcost.mp hnothing.1, hempty.mp hnothing.2⟩]
    refine .eliminate _ rfl rfl ?_ hbytes
    rw [hnothing.1]
    simp [remove]
  · rw [if_neg hnothing, if_neg fun hc => hnothing ⟨hcost.mpr hc.1, hempty.mpr hc.2⟩]
    exact .execute

/-- The allocation that a submitted one could reuse is the same in both
engines. -/
theorem Agree.reusable (h : Agree s t) (ht : t.Valid) (hreq : SameRequest op operation) :
    Option.Rel SameRecord ((s.allocation op.target).filter fun r => r.bytes == op.bytes)
      (t.activeBuffers.lookup (operation.target, operation.sizeMb)) := by
  rw [hreq.target]
  cases hprevious : t.activeBuffers.lookup (operation.target, operation.sizeMb) with
  | some previous =>
      obtain ⟨id, htarget, -⟩ := ht.bufferTarget hprevious
      obtain ⟨-, hmb⟩ := ht.bufferKey hprevious
      have hid : id ≠ "" := fun hc => hreq.targetNamed (hc ▸ htarget)
      change operation.target = some id at htarget
      change previous.sizeMb = operation.sizeMb at hmb
      rw [htarget, ← hmb] at hprevious
      obtain ⟨r, hr, hsame⟩ := h.buffer hid hprevious
      have hsize := (hreq.sameBytes hsame).mpr hmb
      rw [htarget, Option.getD_some, hr, Option.filter_some, if_pos (beq_iff_eq.mpr hsize)]
      exact .some hsame
  | none =>
      suffices hnone : (s.allocation (utf8 (operation.target.getD ""))).filter
          (fun r => r.bytes == op.bytes) = none by
        rw [hnone]
        exact .none
      rw [Option.filter_eq_none_iff]
      intro r hr hsize
      obtain ⟨resource, hresource, -⟩ := Option.bind_eq_some_iff.mp hr
      have hknown := h.resource hreq.targetNamed
      rw [hresource] at hknown
      obtain ⟨resource', hget, -⟩ := rel_some_left.mp hknown
      obtain ⟨id, htarget, -⟩ := Option.bind_eq_some_iff.mp hget
      have hid : id ≠ "" := fun hc => hreq.targetNamed (hc ▸ htarget)
      rw [htarget, Option.getD_some] at hr
      obtain ⟨previous, hbuffer, hsame⟩ := h.allocation hid hr
      have hmb := (hreq.sameBytes hsame).mp (beq_iff_eq.mp hsize)
      unfold RuntimeOptimizationState.Buffer at hbuffer
      rw [htarget, ← hmb, hbuffer] at hprevious
      cases hprevious

/-- Allocations: the remembered buffer of the same size is found on both sides or on none. -/
theorem Agree.choose_allocate (h : Agree s t) (hs : s.Valid) (ht : t.Valid)
    (hreq : SameRequest op operation) (htype : operation.type = .allocate) :
    SameChoice t op operation (s.choose op) (decideOperation casing t operation) := by
  have hcode : op.type = 3 := by rw [hreq.type, htype]; rfl
  have hbytes : ((if op.type ≠ 2 then op.bytes else 0 : Nat) : ℚ) / mebibyte =
      operation.sizeMb := by
    rw [if_pos (by rw [hcode]; decide), hreq.bytes]
  have hreason : State.transient op.reason = isTransientReason casing operation.reason := by
    rw [Bool.eq_iff_iff, hreq.reason]
    exact transient_iff casing operation.reason
  have hdecide : decideOperation casing t operation = decideAllocate casing t operation := by
    unfold decideOperation
    rw [htype]
  have hsame := h.reusable ht hreq
  rw [hdecide]
  unfold State.choose decideAllocate
  rw [if_neg (by rw [hcode]; decide), if_neg (by rw [hcode]; decide), if_pos hcode]
  unfold State.allocation at hsame
  cases hresource : s.resources.lookup op.target with
  | none =>
      rw [hresource, Option.bind_none, Option.filter_none] at hsame
      rw [(rel_none_iff hsame).mp rfl]
      exact .execute
  | some resource =>
      rw [hresource, Option.bind_some] at hsame
      have hreuse : (s.deref resource.allocation).any (State.sameAllocation op) =
          (t.activeBuffers.lookup (operation.target, operation.sizeMb)).any fun previous =>
            previous.frame == operation.frame && isTransientReason casing operation.reason := by
        have hany := any_eq_of_rel hsame (p := fun r => r.frame == op.frame &&
          State.transient op.reason) (q := fun previous => previous.frame == operation.frame &&
          isTransientReason casing operation.reason) (by
            intro r previous hr
            rw [hreason, Bool.eq_iff_iff]
            simp only [Bool.and_eq_true, beq_iff_eq, hreq.sameFrame hr])
        rw [← hany]
        cases s.deref resource.allocation with
        | none => rfl
        | some r =>
            by_cases hsize : r.bytes = op.bytes <;>
              simp [State.sameAllocation, Option.filter_some, hsize]
      dsimp only
      rw [hreuse]
      split_ifs with hgiven
      · refine .eliminate _ rfl ?_ hreq.cost hbytes
        change resource.allocation =
          (t.activeBuffers.lookup (operation.target, operation.sizeMb)).map _
        obtain ⟨previous, hprevious, -⟩ := (Option.any_eq_true _ _).mp hgiven
        rw [hprevious] at hsame ⊢
        obtain ⟨r, hr, hrecord⟩ := rel_some_right.mp hsame
        rw [← hs.allocation_id hresource, (Option.filter_eq_some_iff.mp hr).1]
        exact congrArg some hrecord.id
      · exact .execute

/-- **The same operation gets the same decision.** -/
theorem Agree.choose (h : Agree s t) (hs : s.Valid) (ht : t.Valid) {log : List (Entry Text)}
    (hrec : Recorded s log) {log' : List (Entry String)} (hlog : t.Logged log')
    (hreq : SameRequest op operation) :
    SameChoice t op operation (s.choose op) (decideOperation casing t operation) := by
  have hplain : operation.type.code ≠ 1 ∧ operation.type.code ≠ 2 ∧ operation.type.code ≠ 3 ∧
      operation.type.code ≠ 4 → decideOperation casing t operation = none →
      SameChoice t op operation (s.choose op) (decideOperation casing t operation) := by
    intro hcode hnone
    obtain ⟨h1, h2, h3, h4⟩ := hcode
    rw [hnone]
    unfold State.choose
    rw [hreq.type, if_neg (not_or.mpr ⟨h1, h4⟩), if_neg h2, if_neg h3]
    exact .execute
  cases htype : operation.type with
  | copy => exact h.choose_transfer hs hreq (by rw [htype]; rfl)
  | upload => exact h.choose_transfer hs hreq (by rw [htype]; rfl)
  | sync => exact h.choose_sync hrec hlog hreq htype
  | allocate => exact h.choose_allocate hs ht hreq htype
  | present => exact hplain (by rw [htype]; decide) (by unfold decideOperation; rw [htype])
  | compute => exact hplain (by rw [htype]; decide) (by unfold decideOperation; rw [htype])
  | draw => exact hplain (by rw [htype]; decide) (by unfold decideOperation; rw [htype])

end Choices

end FluidGateway
