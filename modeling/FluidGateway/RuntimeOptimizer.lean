import FluidGateway.Lib.KeyedMap
import FluidGateway.Lib.Worklist
import Mathlib.Data.Finset.Basic
import Mathlib.Data.Rat.Floor

/-!
# The reference optimizer

The Python optimizer of `fluidgateway/runtime.py`: the data model of a
manifest, the provenance and dependency state kept while operations are
submitted in order, and the plan computed for a whole manifest.

Numbers are exact rationals.  A `dict` is a finite map and a `set` of names a
`Finset`; the order in which a `dict` lists its entries is not observable
below, except for `dict.fromkeys`, which is `firsts`.
-/

namespace FluidGateway.Runtime

open KeyedMap

/-- The layers of memory that a resource may lie in. -/
inductive MemoryLayer where
  | ram | vram | shared | staging | swapchain | display
  deriving DecidableEq, Repr

/-- The types of resources. -/
inductive ResourceType where
  | buffer | texture | framebuffer | command | unknown
  deriving DecidableEq, Repr

/-- The types of operations. -/
inductive OperationType where
  | copy | sync | allocate | upload | present | compute | draw
  deriving DecidableEq, Repr

/-- `RuntimeResource`, with the defaults of its parser. -/
structure RuntimeResource where
  id : String
  kind : ResourceType := .unknown
  memory : MemoryLayer := .ram
  sizeMb : ℚ := 0
  lifetime : String := "unknown"
  aliases : List String := []
  deriving DecidableEq, Repr

/-- `RuntimeOperation`, with the defaults of its parser. -/
structure RuntimeOperation where
  id : String
  type : OperationType
  source : Option String := none
  target : Option String := none
  queue : String := "unknown"
  reason : String := ""
  costMs : ℚ := 0
  sizeMb : ℚ := 0
  frame : Option ℤ := none
  dependsOn : List String := []
  deriving DecidableEq, Repr

/-- What a decision does with its operation. -/
inductive Action where
  | remove | reuse
  deriving DecidableEq, Repr

/-- The policies, in the order in which an operation is tried against them. -/
inductive Policy where
  | eliminateSelfCopy
  | collapseAliasedResourceCopy
  | deduplicateIdenticalTransfer
  | removeOrphanSync
  | removeEmptySync
  | reuseTransientBuffer
  deriving DecidableEq, Repr

/-- `RuntimeDecision`. -/
structure RuntimeDecision where
  operationId : String
  action : Action
  policy : Policy
  rationale : String
  estimatedSavedMs : ℚ
  estimatedSavedMb : ℚ
  deriving DecidableEq, Repr

/-- Resources are stored under their own id: `load_manifest` and
`register_resource` never store one under another key. -/
structure ResourceTable where
  table : Map String RuntimeResource
  keyed : ∀ id r, table.lookup id = some r → r.id = id

namespace ResourceTable

/-- A table without resources. -/
def empty : ResourceTable := ⟨∅, by intro id r h; cases h⟩

/-- `resources.get(id)`. -/
def get (resources : ResourceTable) (id : String) : Option RuntimeResource :=
  resources.table.lookup id

/-- `id in resources`. -/
def contains (resources : ResourceTable) (id : String) : Bool :=
  (resources.get id).isSome

/-- `resources.values()`. -/
def values (resources : ResourceTable) : List RuntimeResource :=
  resources.table.entries.map Sigma.snd

/-- `resources[resource.id] = resource`; the key is the resource's own id, so the table
stays keyed. -/
def insert (resources : ResourceTable) (resource : RuntimeResource) : ResourceTable where
  table := resources.table.insert resource.id resource
  keyed := by
    intro id r h
    by_cases hid : id = resource.id
    · subst hid
      rw [AList.lookup_insert, Option.some.injEq] at h
      rw [← h]
    · rw [AList.lookup_insert_ne hid] at h
      exact resources.keyed id r h

/-- `resources.pop(id, None)`. -/
def pop (resources : ResourceTable) (id : String) : ResourceTable where
  table := resources.table.erase id
  keyed := by
    intro k r h
    by_cases hk : k = id
    · subst hk
      simp at h
    · rw [AList.lookup_erase_ne hk] at h
      exact resources.keyed k r h

end ResourceTable

/-- `RuntimeManifest`, once its file is loaded. -/
structure RuntimeManifest where
  name : String
  resources : ResourceTable
  operations : List RuntimeOperation

/-- `RuntimePlan`. -/
structure RuntimePlan where
  mode : String
  manifestName : String
  originalOperations : Nat
  optimizedOperations : Nat
  estimatedSavedMs : ℚ
  estimatedSavedMb : ℚ
  keptOperations : List RuntimeOperation
  decisions : List RuntimeDecision
  warnings : List String
  deriving DecidableEq, Repr

/-- `RuntimeOptimizationState`: what earlier operations have left for the next ones. -/
structure RuntimeOptimizationState where
  resources : ResourceTable
  lastCopyByTarget : Map String RuntimeOperation := ∅
  activeBuffers : Map (Option String × ℚ) RuntimeOperation := ∅
  replacements : Map String (List String) := ∅
  removedIds : Finset String := ∅
  operationIds : Finset String := ∅

/-! ## Lower case -/

/-- What `str.lower` does to one character of any Unicode version: ASCII
letters are folded, two other characters have an ASCII letter in their lower
case, and every other character becomes one or more characters outside
ASCII. -/
def LowerOf (c : Char) (block : List Char) : Prop :=
  if c.val < 128 then block = [c.toLower]
  else if c.val = 0x130 then block = ['i', Char.ofNat 0x307]
  else if c.val = 0x212A then block = ['k']
  else block ≠ [] ∧ ∀ d ∈ block, 128 ≤ d.val

/-- The case mapping of a Unicode version.  The lower case of a character may
depend on its neighbours, but the blocks are placed one after the other. -/
structure Casing where
  lower : String → String
  blocks : ∀ s, ∃ parts : List (List Char),
    (lower s).toList = parts.flatten ∧ List.Forall₂ LowerOf s.toList parts

/-- The least case mapping: outside ASCII only the two characters whose lower
case has an ASCII letter are folded. -/
def Casing.plain : Casing where
  lower s := String.ofList (s.toList.flatMap fun c =>
    if c.val < 128 then [c.toLower]
    else if c.val = 0x130 then ['i', Char.ofNat 0x307]
    else if c.val = 0x212A then ['k']
    else [c])
  blocks := by
    intro s
    refine ⟨_, by rw [String.toList_ofList, List.flatMap_def], ?_⟩
    rw [List.forall₂_map_right_iff, List.forall₂_same]
    intro c _
    unfold LowerOf
    split_ifs with hascii
    · rfl
    · rfl
    · rfl
    · refine ⟨List.cons_ne_nil _ _, ?_⟩
      intro d hd
      rw [List.mem_singleton.mp hd]
      exact UInt32.not_lt.mp hascii

variable (casing : Casing)

/-- `is_transient_reason`: one of four words occurs in the reason, in any case of its
letters. -/
def isTransientReason (reason : String) : Bool :=
  let text := casing.lower reason
  ["transient", "scratch", "temporary", "staging"].any
    fun token => decide (token.toList <:+: text.toList)

/-! ## The optimization state -/

/-- `set(a) & set(b)` is not empty. -/
def aliasesMeet (a b : RuntimeResource) : Bool :=
  a.aliases.any fun name => b.aliases.contains name

namespace RuntimeOptimizationState

/-- `other` is a view that shares an alias with the resource stored under
`id`, in the same memory layer. -/
def joined (s : RuntimeOptimizationState) (id other : String) : Bool :=
  match s.resources.get id, s.resources.get other with
  | some resource, some view => view.memory == resource.memory && aliasesMeet view resource
  | _, _ => false

/-- The `affected` set of `invalidate_resource`, grown from a stack of pending
ids. -/
def affected (s : RuntimeOptimizationState) (resourceId : String) : List String :=
  let others := s.resources.values.map RuntimeResource.id
  Worklist.flood s.joined others others.length [resourceId] [resourceId]

/-- An unknown resource could be anything, so all provenance is cleared. -/
def invalidateResource (s : RuntimeOptimizationState) (resourceId : Option String) :
    RuntimeOptimizationState :=
  match resourceId with
  | none => { s with lastCopyByTarget := ∅ }
  | some id =>
    if s.resources.contains id then
      let affected := s.affected id
      { s with
        lastCopyByTarget := keep (fun target previous =>
          !(decide (target ∈ affected) || previous.source.any fun source =>
            decide (source ∈ affected))) s.lastCopyByTarget }
    else { s with lastCopyByTarget := ∅ }

/-- Forget the allocations of one target. -/
def dropBuffers (s : RuntimeOptimizationState) (target : Option String) :
    RuntimeOptimizationState :=
  { s with activeBuffers := keep (fun key _ => decide (key.1 ≠ target)) s.activeBuffers }

/-- `release_resource`: what is remembered about the resource goes before the resource does. -/
def releaseResource (s : RuntimeOptimizationState) (resourceId : String) :
    Option RuntimeResource × RuntimeOptimizationState :=
  let s := (s.invalidateResource (some resourceId)).dropBuffers (some resourceId)
  (s.resources.get resourceId, { s with resources := s.resources.pop resourceId })

/-- `dict.get(name or "")`. -/
def lastCopy (s : RuntimeOptimizationState) (target : Option String) : Option RuntimeOperation :=
  s.lastCopyByTarget.lookup (target.getD "")

end RuntimeOptimizationState

/-- The decision that removes an operation, under a policy. -/
def remove (operation : RuntimeOperation) (policy : Policy) (rationale : String)
    (savedMs savedMb : ℚ) : RuntimeDecision :=
  { operationId := operation.id, action := .remove, policy, rationale,
    estimatedSavedMs := savedMs, estimatedSavedMb := savedMb }

/-- The previous transfer into the target is the same transfer. -/
def sameTransfer (operation previous : RuntimeOperation) : Bool :=
  previous.source == operation.source && previous.sizeMb == operation.sizeMb &&
    previous.frame == operation.frame && previous.queue == operation.queue

/-- The first branch of `decide_operation`, for copies and uploads between two
resources that are both known. -/
def decideTransfer (s : RuntimeOptimizationState) (operation : RuntimeOperation)
    (source target : RuntimeResource) : Option RuntimeDecision :=
  if operation.source = operation.target then
    some (remove operation .eliminateSelfCopy
      "Source and target are the same resource; the transfer does no useful movement."
      operation.costMs operation.sizeMb)
  else if target.memory = source.memory ∧ aliasesMeet target source = true then
    some (remove operation .collapseAliasedResourceCopy
      "Source and target alias the same data in the same memory layer."
      operation.costMs operation.sizeMb)
  else if (s.lastCopy operation.target).any (sameTransfer operation) then
    some (remove operation .deduplicateIdenticalTransfer
      "Previous transfer already populated the same target from the same source."
      operation.costMs operation.sizeMb)
  else none

/-- The part of `decide_operation` about waits: an orphan is tried before an empty one. -/
def decideSync (s : RuntimeOptimizationState) (operation : RuntimeOperation) :
    Option RuntimeDecision :=
  if operation.dependsOn ≠ [] ∧ ∀ dep ∈ operation.dependsOn, dep ∈ s.removedIds then
    some (remove operation .removeOrphanSync
      "Synchronization only waits on operations already removed by earlier policies."
      operation.costMs 0)
  else if operation.costMs ≤ 0 ∧ operation.dependsOn = [] then
    some (remove operation .removeEmptySync
      "Synchronization has no dependency and no measured cost." 0 0)
  else none

/-- The part of `decide_operation` about buffers: the same target and size, in the same
frame, and a transient reason. -/
def decideAllocate (s : RuntimeOptimizationState) (operation : RuntimeOperation) :
    Option RuntimeDecision :=
  if (s.activeBuffers.lookup (operation.target, operation.sizeMb)).any fun previous =>
      previous.frame == operation.frame && isTransientReason casing operation.reason then
    some { operationId := operation.id, action := .reuse, policy := .reuseTransientBuffer,
           rationale :=
             "A transient buffer with the same target and size is already available for reuse.",
           estimatedSavedMs := operation.costMs, estimatedSavedMb := operation.sizeMb }
  else none

/-- `decide_operation`: a transfer is decided only if both of its resources are known. -/
def decideOperation (s : RuntimeOptimizationState) (operation : RuntimeOperation) :
    Option RuntimeDecision :=
  match operation.type with
  | .copy | .upload =>
    match operation.source.bind s.resources.get, operation.target.bind s.resources.get with
    | some source, some target => decideTransfer s operation source target
    | _, _ => none
  | .sync => decideSync s operation
  | .allocate => decideAllocate casing s operation
  | _ => none

/-- The operations that move data. -/
def OperationType.transfers : OperationType → Bool
  | .copy | .upload => true
  | _ => false

/-- The operations after which what their target holds is new. -/
def OperationType.writes : OperationType → Bool
  | .copy | .upload | .allocate | .compute | .draw => true
  | _ => false

namespace RuntimeOptimizationState

/-- What the dependencies of a submitted operation stand for. -/
def dependencies (s : RuntimeOptimizationState) (operation : RuntimeOperation) : List String :=
  firsts (operation.dependsOn.flatMap fun dependency =>
    (s.replacements.lookup dependency).getD [dependency])

/-- The operation retained in place of an eliminated one. -/
def retained (s : RuntimeOptimizationState) (operation : RuntimeOperation) :
    Policy → Option RuntimeOperation
  | .deduplicateIdenticalTransfer => operation.target.bind s.lastCopyByTarget.lookup
  | .reuseTransientBuffer => s.activeBuffers.lookup (operation.target, operation.sizeMb)
  | .collapseAliasedResourceCopy => operation.source.bind s.lastCopyByTarget.lookup
  | _ => none

/-- Bookkeeping for an eliminated operation. -/
def eliminate (s : RuntimeOptimizationState) (operation : RuntimeOperation)
    (decision : RuntimeDecision) (dependencies : List String) : RuntimeOptimizationState :=
  let replacements :=
    ((s.retained operation decision.policy).map RuntimeOperation.id).toList ++ dependencies
  { s with
    replacements := s.replacements.insert operation.id (firsts replacements)
    removedIds := if replacements = [] then insert operation.id s.removedIds else s.removedIds }

/-- The target names a registered resource. -/
def knows (s : RuntimeOptimizationState) (target : Option String) : Bool :=
  target.any s.resources.contains

/-- Remember an executed transfer into a known target. -/
def rememberCopy (s : RuntimeOptimizationState) (operation : RuntimeOperation) :
    RuntimeOptimizationState :=
  match operation.target with
  | some target =>
    if operation.type.transfers ∧ s.resources.contains target = true then
      { s with lastCopyByTarget := s.lastCopyByTarget.insert target operation }
    else s
  | none => s

/-- Remember an executed allocation of a known target, its only one. -/
def rememberBuffer (s : RuntimeOptimizationState) (operation : RuntimeOperation) :
    RuntimeOptimizationState :=
  if operation.type = .allocate ∧ s.knows operation.target = true then
    let s := s.dropBuffers operation.target
    { s with
      activeBuffers := s.activeBuffers.insert (operation.target, operation.sizeMb) operation }
  else s

/-- Bookkeeping for an executed operation. -/
def execute (s : RuntimeOptimizationState) (operation : RuntimeOperation) :
    RuntimeOptimizationState :=
  let s := if operation.type.writes then s.invalidateResource operation.target else s
  (s.rememberCopy operation).rememberBuffer operation

/-- Submit one operation.  `.error` carries the text of the `ValueError`; the
state is unchanged then. -/
def process (s : RuntimeOptimizationState) (operation : RuntimeOperation) :
    Except String (RuntimeOperation × Option RuntimeDecision) × RuntimeOptimizationState :=
  if operation.id ∈ s.operationIds then
    (.error ("Duplicate operation id: " ++ operation.id), s)
  else
    let dependencies := s.dependencies operation
    let decision := decideOperation casing s operation
    let s := { s with operationIds := insert operation.id s.operationIds }
    let operation := { operation with dependsOn := dependencies }
    match decision with
    | some decision =>
      (.ok (operation, some decision), s.eliminate operation decision dependencies)
    | none => (.ok (operation, none), s.execute operation)

end RuntimeOptimizationState

/-! ## Manifests -/

/-- `round`: to the nearest integer, a tie to the even one. -/
def roundHalfEven (q : ℚ) : ℤ :=
  let below := ⌊q⌋
  let rest := q - below
  if rest < 1 / 2 then below
  else if 1 / 2 < rest then below + 1
  else if below % 2 = 0 then below else below + 1

/-- `round(q, 4)`. -/
def round4 (q : ℚ) : ℚ :=
  roundHalfEven (q * 10000) / 10000

/-- The warning for one role of one operation. -/
def unknownWarning (manifest : RuntimeManifest) (operation : RuntimeOperation) (role : String)
    (resourceId : Option String) : Option String :=
  match resourceId with
  | some id =>
    if id ≠ "" ∧ manifest.resources.contains id = false then
      some ("Operation " ++ operation.id ++ " references unknown " ++ role ++ " resource " ++
        id ++ ".")
    else none
  | none => none

/-- `validate_manifest`: a warning for each unknown source and target, in the order of the
operations. -/
def validateManifest (manifest : RuntimeManifest) : List String :=
  let unknown := manifest.operations.flatMap fun operation =>
    (unknownWarning manifest operation "source" operation.source).toList ++
      (unknownWarning manifest operation "target" operation.target).toList
  if manifest.operations = [] then unknown ++ ["Manifest contains no operations."] else unknown

/-- The loop of `optimize_manifest`: the kept operations and the decisions, in
order. -/
def optimizeLoop (s : RuntimeOptimizationState) :
    List RuntimeOperation → Except String (List RuntimeOperation × List RuntimeDecision)
  | [] => .ok ([], [])
  | operation :: rest =>
    match s.process casing operation with
    | (.error e, _) => .error e
    | (.ok (operation, decision), s) =>
      match optimizeLoop s rest with
      | .error e => .error e
      | .ok (kept, decisions) =>
        match decision with
        | some decision => .ok (kept, decision :: decisions)
        | none => .ok (operation :: kept, decisions)

/-- `optimize_manifest`: the state of a run over all operations, and what is summed over its
decisions. -/
def optimizeManifest (manifest : RuntimeManifest) : Except String RuntimePlan :=
  match optimizeLoop casing { resources := manifest.resources } manifest.operations with
  | .error e => .error e
  | .ok (kept, decisions) =>
    .ok { mode := "runtime-optimizer-v0.4-manifest"
          manifestName := manifest.name
          originalOperations := manifest.operations.length
          optimizedOperations := kept.length
          estimatedSavedMs := round4 (decisions.map RuntimeDecision.estimatedSavedMs).sum
          estimatedSavedMb := round4 (decisions.map RuntimeDecision.estimatedSavedMb).sum
          keptOperations := kept
          decisions
          warnings := validateManifest manifest }

end FluidGateway.Runtime
