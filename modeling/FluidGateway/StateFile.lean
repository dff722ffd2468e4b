import FluidGateway.AtomicFile
import FluidGateway.BackedOperations
import FluidGateway.Lib.Utf8
import FluidGateway.StateTransition

/-!
# The state file

`fluidgateway/state_accumulator.py` and `fluidgateway/cli.py`: a process loads the
state file, runs cycles from the state it has read, and writes the last state.

Any number of processes share a state file, without any lock.  What they write may
replace what others have written since they loaded it; but no load ever fails, and
each gives a state that one process could have computed without stopping, from the
state that was there at the start (`loads_uninterrupted`).  The path is the one that
`normalized_json_path` makes of what was given, which is never that of a temporary
file; and what is there at the start is on stable storage.

What `json.dumps` and `json.loads` do is a parameter, together with the encoding of
texts.
-/

namespace FluidGateway.AtomicFile

open Storage FluidGateway.Runtime ControlLoop
open FluidGateway.Adapter (Builtins Json Payload Raised)

/-! ## Paths -/

/-- `path.suffix`: from the last dot, unless the name starts or ends with it. -/
def Path.suffix (path : Path) : String :=
  let extension := (path.name.toList.reverse.takeWhile (· ≠ '.')).reverse
  if extension.length + 1 < path.name.toList.length ∧ extension ≠ [] then
    String.ofList ('.' :: extension)
  else ""

/-- `path.with_suffix(suffix)`, which raises for an empty name. -/
def Path.withSuffix (path : Path) (suffix : String) : Option Path :=
  if path.name = "" then none
  else
    let stem := path.name.toList.take (path.name.toList.length - path.suffix.toList.length)
    some { path with name := String.ofList stem ++ suffix }

/-- `normalized_json_path`, of a path that is resolved. -/
def normalizedJsonPath (casing : Casing) (path : Path) : Option Path :=
  if casing.lower path.suffix = ".json" then some path else path.withSuffix ".json"

/-- `str(path)`. -/
def Path.text (path : Path) : String :=
  String.join (path.parent.map (· ++ "/")) ++ path.name

/-- A name that ends in a dot and letters has these as its suffix. -/
theorem suffix_of_name {path : Path} (stem extension : List Char)
    (hname : path.name.toList = stem ++ '.' :: extension) (hstem : stem ≠ [])
    (hextension : extension ≠ []) (hdot : '.' ∉ extension) :
    path.suffix = String.ofList ('.' :: extension) := by
  have htail : (path.name.toList.reverse.takeWhile (· ≠ '.')).reverse = extension := by
    have hreverse : path.name.toList.reverse = extension.reverse ++ '.' :: stem.reverse := by
      rw [hname, List.reverse_append, List.reverse_cons, List.append_assoc]
      rfl
    rw [hreverse, List.takeWhile_append_of_pos, List.takeWhile_cons_of_neg, List.append_nil,
      List.reverse_reverse]
    · simp
    · intro c hc
      rw [List.mem_reverse] at hc
      exact decide_eq_true fun h => hdot (h ▸ hc)
  have hlength : extension.length + 1 < path.name.toList.length := by
    have hpos := List.length_pos_of_ne_nil hstem
    rw [hname, List.length_append, List.length_cons]
    omega
  unfold Path.suffix
  dsimp only
  rw [htail, if_pos ⟨hlength, hextension⟩]

/-- A suffix is shorter than the name. -/
theorem length_suffix_lt {path : Path} (hname : path.name ≠ "") :
    path.suffix.toList.length < path.name.toList.length := by
  have hpos : 0 < path.name.toList.length := by
    apply List.length_pos_of_ne_nil
    intro h
    exact hname (String.toList_injective h)
  unfold Path.suffix
  dsimp only
  split
  · next h =>
      rw [String.toList_ofList, List.length_cons]
      exact h.1
  · exact hpos

/-- A path that is given the suffix `.json` has it. -/
theorem suffix_withSuffix {path path' : Path} (h : path.withSuffix ".json" = some path') :
    path'.suffix = ".json" := by
  unfold Path.withSuffix at h
  split at h
  · cases h
  · next hname =>
      obtain rfl := Option.some.inj h
      have hlength := length_suffix_lt hname
      refine suffix_of_name (path.name.toList.take
        (path.name.toList.length - path.suffix.toList.length)) "json".toList ?_ ?_ (by decide) (by decide)
      · rw [String.toList_append, String.toList_ofList]
        rfl
      · rw [ne_eq, List.take_eq_nil_iff, not_or]
        refine ⟨by omega, ?_⟩
        intro hnil
        rw [hnil] at hlength
        exact Nat.not_lt_zero _ hlength

/-- The path that is written has the suffix `.json` in some case of its letters. -/
theorem suffix_normalized {casing : Casing} {path path' : Path}
    (h : normalizedJsonPath casing path = some path') : casing.lower path'.suffix = ".json" := by
  unfold normalizedJsonPath at h
  split at h
  · next hjson =>
      obtain rfl := Option.some.inj h
      exact hjson
  · rw [suffix_withSuffix h]
    exact keyword_lower casing (s := ".json") (by decide)

/-- No file whose name ends in `.json` is a temporary one. -/
theorem plain_of_json {casing : Casing} {path : Path}
    (h : casing.lower path.suffix = ".json") : ¬ path.IsTemporary := by
  rintro ⟨target, random, rfl⟩
  have hsuffix : (target.temporary random).suffix = ".tmp" := by
    refine suffix_of_name ('.' :: (target.name.toList ++ '.' :: random.toList)) "tmp".toList ?_
      (List.cons_ne_nil _ _) (by decide) (by decide)
    simp [Path.temporary]
  have htmp := keyword_lower casing (s := ".tmp") (by decide)
  have hstrip : strip ".tmp" = ".tmp" := by decide
  rw [hsuffix, ← hstrip, htmp] at h
  exact absurd h (by decide)

/-! ## States -/

/-- The state after some cycles. -/
def lastState (previous : Option RuntimeStateAccumulator) (updates : List RuntimePolicyUpdate) :
    Option RuntimeStateAccumulator :=
  updates.foldl (fun previous update => some (buildRuntimeStateAccumulator update previous)) previous

/-- It is the last state of the run. -/
theorem lastState_eq {previous : Option RuntimeStateAccumulator}
    {updates : List RuntimePolicyUpdate}
    {run : List (RuntimeStateAccumulator × RuntimeStateTransition)}
    (h : runCycles .ok previous updates = .ok run) :
    lastState previous updates = (run.getLast?.map Prod.fst).or previous := by
  rw [runCycles_kept] at h
  replace h := Except.ok.inj h
  subst h
  induction updates generalizing previous with
  | nil => rfl
  | cons update updates ih =>
      change lastState (some (buildRuntimeStateAccumulator update previous)) updates = _
      rw [ih, cycles, List.getLast?_cons]
      cases (cycles id (some (buildRuntimeStateAccumulator update previous)) updates).getLast? with
      | none => rfl
      | some last => rfl

/-- A state that was written and read again is followed by the same states. -/
theorem lastState_rounded {updates : List RuntimePolicyUpdate} (h : updates ≠ [])
    (previous : Option RuntimeStateAccumulator) :
    lastState (previous.map RuntimeStateAccumulator.rounded) updates = lastState previous updates := by
  obtain ⟨update, updates, rfl⟩ := List.exists_cons_of_ne_nil h
  exact congrArg (fun state => lastState (some state) updates) (build_rounded update previous)

/-- Every state that was computed can be read again. -/
theorem lastState_mode {previous : Option RuntimeStateAccumulator}
    {updates : List RuntimePolicyUpdate} (h : updates ≠ []) {state : RuntimeStateAccumulator}
    (hstate : lastState previous updates = some state) :
    state.mode ∈ supportedStateAccumulatorModes := by
  obtain ⟨updates, update, rfl⟩ := (List.eq_nil_or_concat updates).resolve_left h
  rw [lastState, List.concat_eq_append, List.foldl_append] at hstate
  obtain rfl := Option.some.inj hstate
  exact build_mode update _

/-! ## Processes -/

section Processes

/-- What a load returns or raises. -/
abbrev Load := Except Raised (Option RuntimeStateAccumulator)

variable (builtins : Builtins) (dumps : Payload → Option (List UInt8))
  (loads : List UInt8 → Option Json)

/-- The file is read once: one that is there stays there, and may be newer than at
`path.exists`. -/
def loadRuntimeStateAccumulator (files : Files) (path : Path) : Load :=
  match files.read path with
  | none => .ok none
  | some text =>
    match loads text with
    | none => .error (.value ("Runtime state file is not valid JSON: " ++ path.text))
    | some payload => (runtimeStateAccumulatorFromDict builtins payload).map some

/-- Calls of `write_runtime_state_accumulator`; the path ends in `.json` already. -/
def Writes (state : RuntimeStateAccumulator) (path : Path) (call : Call) : Prop :=
  call.path = path ∧ call.encoded = dumps state.toDict

/-- What may be written to the state file: the last state of some cycles from one
that was loaded. -/
def Computed (loaded : List Load) (path : Path) (call : Call) : Prop :=
  ∃ previous updates run state transition, .ok previous ∈ loaded ∧
    runCycles .ok previous updates = .ok run ∧ run.getLast? = some (state, transition) ∧
      Writes dumps state path call

/-- Runs in which processes load and write the state file, and anything else is
written to other files.  The results of the loads are kept. -/
inductive Serves (path : Path) (start : Files) :
    List Act → System → List Load → Prop
  | start : Serves path start [] { files := start, writer := fun _ => none } []
  | load {acts : List Act} {s : System} {loaded : List Load}
      (run : Serves path start acts s loaded) :
      Serves path start acts s
        (loaded ++ [loadRuntimeStateAccumulator builtins loads s.files path])
  | step {acts : List Act} {act : Act} {s t : System} {loaded : List Load}
      (run : Serves path start acts s loaded) (step : Step s act t)
      (state : ∀ p call, act = .call p call → call.path = path → Computed dumps loaded path call) :
      Serves path start (acts ++ [act]) t loaded

/-- The state at the start, or one that cycles without a stop lead to from there. -/
def Uninterrupted (first previous : Option RuntimeStateAccumulator) : Prop :=
  previous = first ∨ ∃ updates run state transition, runCycles .ok first updates = .ok run ∧
    run.getLast? = some (state, transition) ∧ previous = some state.rounded

variable {builtins dumps loads} {path : Path} {start : Files} {acts : List Act} {s : System}
  {loaded : List Load} {first : Option RuntimeStateAccumulator}

/-- Calls and loads in a run of the service are, without the loads, a run of the machine. -/
theorem Serves.run (h : Serves builtins dumps loads path start acts s loaded) :
    Run start acts s := by
  induction h with
  | start => exact .start
  | load _ ih => exact ih
  | step _ step _ ih => exact .step ih step

/-- A text that is there is read as a state. -/
theorem load_eq {files : Files} {text : List UInt8} {payload : Json}
    (hread : files.read path = some text) (hloads : loads text = some payload) :
    loadRuntimeStateAccumulator builtins loads files path =
      (runtimeStateAccumulatorFromDict builtins payload).map some := by
  unfold loadRuntimeStateAccumulator
  rw [hread]
  dsimp only
  rw [hloads]

/-- A process goes on with its own call. -/
theorem Step.writer {act : Act} {t : System} (h : Step s act t) {p : ℕ} {call : Call}
    {phase : Phase} (hp : t.writer p = some (call, phase)) :
    act = .call p call ∨ ∃ phase', s.writer p = some (call, phase') := by
  cases h with
  | @call q called new =>
      rw [writer_set] at hp
      split at hp
      · next hq =>
          obtain ⟨rfl, -⟩ := Prod.mk.inj (Option.some.inj hp)
          exact .inl (by rw [hq])
      · exact .inr ⟨phase, hp⟩
  | @move q called before after files writer moves =>
      rw [writer_set] at hp
      split at hp
      · next hq =>
          obtain ⟨rfl, -⟩ := Prod.mk.inj (Option.some.inj hp)
          exact .inr ⟨before, hq ▸ writer⟩
      · exact .inr ⟨phase, hp⟩
  | powerLoss lost =>
      obtain ⟨w, hw, heq⟩ := Option.map_eq_some_iff.mp hp
      obtain ⟨rfl, -⟩ := Prod.mk.inj heq
      exact .inr ⟨w.2, hw⟩

/-- One process moves, and nothing is loaded meanwhile. -/
theorem Serves.moved {p : ℕ} {call : Call} {phase phase' : Phase} {files : Files}
    (h : Serves builtins dumps loads path start acts s loaded)
    (hp : s.writer p = some (call, phase)) (hmoved : Moved call phase s.files phase' files) :
    ∃ acts', Serves builtins dumps loads path start acts' (s.set p call phase' files) loaded := by
  induction hmoved with
  | refl => exact ⟨acts, by rwa [set_self hp]⟩
  | @tail before after d d' _ moves ih =>
      obtain ⟨acts', hserves⟩ := ih
      have hstep := Step.move (s := s.set p call before d) (by rw [writer_set, if_pos rfl]) moves
      rw [set_set] at hstep
      exact ⟨_, hserves.step hstep fun q other hact => by cases hact⟩

/-- What is written to the state file, told from the start. -/
def Derived (first : Option RuntimeStateAccumulator) (dumps : Payload → Option (List UInt8))
    (call : Call) : Prop :=
  ∃ updates state, updates ≠ [] ∧ lastState first updates = some state ∧
    call.encoded = dumps state.toDict

/-- The state before, told from the start. -/
def Reached (first previous : Option RuntimeStateAccumulator) : Prop :=
  previous = first ∨ ∃ updates, updates ≠ [] ∧
    previous = (lastState first updates).map RuntimeStateAccumulator.rounded

/-- Cycles from a state that was reached make a state that cycles from the start make; a
rounded state makes the same ones. -/
theorem Reached.derived {previous : Option RuntimeStateAccumulator} (h : Reached first previous)
    {updates : List RuntimePolicyUpdate} (hupdates : updates ≠ []) :
    ∃ more, more ≠ [] ∧ lastState first more = lastState previous updates := by
  obtain rfl | ⟨before, -, rfl⟩ := h
  · exact ⟨updates, hupdates, rfl⟩
  · refine ⟨before ++ updates, List.append_ne_nil_of_right_ne_nil _ hupdates, ?_⟩
    rw [lastState_rounded hupdates]
    exact List.foldl_append

/-- What a process writes was made by cycles from the start, if what it has loaded was. -/
theorem Computed.derived {call : Call} (h : Computed dumps loaded path call)
    (hloaded : ∀ result ∈ loaded, ∃ previous, result = .ok previous ∧ Reached first previous) :
    Derived first dumps call := by
  obtain ⟨previous, updates, run, state, transition, hmem, hrun, hlast, hwrites⟩ := h
  obtain ⟨previous', heq, hreached⟩ := hloaded _ hmem
  obtain rfl := Except.ok.inj heq
  have hupdates : updates ≠ [] := by
    rintro rfl
    rw [runCycles] at hrun
    obtain rfl := Except.ok.inj hrun
    cases hlast
  obtain ⟨more, hmore, hstate⟩ := hreached.derived hupdates
  refine ⟨more, state, hmore, ?_, hwrites.2⟩
  rw [hstate, lastState_eq hrun, hlast]
  rfl

/-- A state that was reached is what a run without a stop leaves. -/
theorem Reached.uninterrupted {previous : Option RuntimeStateAccumulator}
    (h : Reached first previous) : Uninterrupted first previous := by
  refine h.imp_right ?_
  rintro ⟨updates, hupdates, rfl⟩
  have hrun := runCycles_kept first updates
  have hstate := lastState_eq hrun
  obtain ⟨last, hlast⟩ : ∃ last, (cycles id first updates).getLast? = some last := by
    obtain ⟨update, updates, rfl⟩ := List.exists_cons_of_ne_nil hupdates
    exact ⟨_, List.getLast?_cons⟩
  rw [hlast] at hstate
  exact ⟨updates, _, last.1, last.2, hrun, hlast, congrArg _ hstate⟩

/-- **Whatever is loaded is whole.** Processes load and write a state file at once,
and none waits for another; calls fail, processes are killed, and the power is lost.
Where `json.loads` reads what `json.dumps` has written of a state, no load fails, and
each gives the state that was there at the start, or one that cycles without a stop
lead to from there. -/
theorem loads_uninterrupted {casing : Casing} {given : Path}
    (hpath : normalizedJsonPath casing given = some path)
    (hloads : ∀ (state : RuntimeStateAccumulator) text,
      state.mode ∈ supportedStateAccumulatorModes → dumps state.toDict = some text →
        loads text = some (.dict state.toDict))
    (hsettled : Settled start)
    (hfirst : loadRuntimeStateAccumulator builtins loads start path = .ok first)
    (h : Serves builtins dumps loads path start acts s loaded) :
    ∀ result ∈ loaded, ∃ previous, result = .ok previous ∧ Uninterrupted first previous := by
  suffices hall : (∀ result ∈ loaded, ∃ previous, result = .ok previous ∧ Reached first previous) ∧
      ∀ p call phase, s.writer p = some (call, phase) → call.path = path →
        Derived first dumps call by
    intro result hresult
    obtain ⟨previous, heq, hreached⟩ := hall.1 result hresult
    exact ⟨previous, heq, hreached.uninterrupted⟩
  induction h with
  | start =>
      refine ⟨fun result hresult => ?_, fun p call phase hp => ?_⟩
      · cases hresult
      · cases hp
  | @load acts s loaded hserves ih =>
      refine ⟨fun result hresult => ?_, ih.2⟩
      obtain hresult | hresult := List.mem_append.mp hresult
      · exact ih.1 result hresult
      · obtain rfl := List.mem_singleton.mp hresult
        obtain hread | ⟨p, call, bytes, hp, hpath, hbytes, hread⟩ :=
          contents_whole hsettled hserves.run (plain_of_json (suffix_normalized hpath))
        · refine ⟨first, ?_, .inl rfl⟩
          rw [← hfirst]
          unfold loadRuntimeStateAccumulator
          rw [hread]
        · obtain ⟨updates, state, hupdates, hstate, hencoded⟩ := ih.2 p call _ hp hpath
          refine ⟨some state.rounded, ?_, .inr ⟨updates, hupdates, by rw [hstate]; rfl⟩⟩
          have hmode := lastState_mode hupdates hstate
          rw [load_eq hread (hloads state bytes hmode (hencoded.symm.trans hbytes)),
            fromDict_toDict builtins hmode]
          rfl
  | step hserves hstep hstate ih =>
      refine ⟨ih.1, fun p call phase hp hpath => ?_⟩
      obtain hcall | ⟨phase', hp'⟩ := hstep.writer hp
      · exact (hstate p call hcall hpath).derived ih.1
      · exact ih.2 p call phase' hp' hpath

end Processes

/-! ## A first state -/

open FluidGateway.Adapter.RuntimeAdapterSession (plainBuiltins)

/-- Writing a frame rounds it, and rounding it before changes nothing. -/
theorem FrameAccumulatedState.toDict_rounded (state : FrameAccumulatedState) :
    state.rounded.toDict = state.toDict := by
  simp [FrameAccumulatedState.rounded, FrameAccumulatedState.toDict, amount, round4_round4]

/-- Writing a layer rounds it, and rounding it before changes nothing. -/
theorem MemoryAccumulatedState.toDict_rounded (state : MemoryAccumulatedState) :
    state.rounded.toDict = state.toDict := by
  simp [MemoryAccumulatedState.rounded, MemoryAccumulatedState.toDict, amount, round4_round4]

/-- Rounding is all that writing loses. -/
theorem toDict_rounded (state : RuntimeStateAccumulator) :
    state.rounded.toDict = state.toDict := by
  simp [RuntimeStateAccumulator.rounded, RuntimeStateAccumulator.toDict, amount, round4_round4,
    FrameAccumulatedState.toDict_rounded, MemoryAccumulatedState.toDict_rounded]

/-- The state after a first cycle that needed half of its frame. -/
def calmState : RuntimeStateAccumulator :=
  buildRuntimeStateAccumulator (cycleUpdate 10 5 5) none

/-- Its amounts have no more than four decimals: it is read as it was. -/
theorem fromDict_calmState :
    runtimeStateAccumulatorFromDict plainBuiltins (.dict calmState.toDict) = .ok calmState := by
  have hmode : calmState.mode ∈ supportedStateAccumulatorModes := build_mode _ none
  have hrounded : calmState.rounded = calmState := by
    unfold calmState cycleUpdate packetEnvelope buildRuntimeBudgetEnvelope
    rw [buildMemoryLayers_none]
    decide +kernel
  rw [fromDict_toDict plainBuiltins hmode, hrounded]

/-- `json.dumps(calmState.to_dict(), indent=2, ensure_ascii=False)`. -/
def calmText : String :=
  String.intercalate "\n"
    ["\x7b",
      "  \"mode\": \"runtime-state-accumulator-v0.41\",",
      "  \"profile\": \"stable\",",
      "  \"policy_action\": \"maintain-runtime-policy\",",
      "  \"convergence_status\": \"stable\",",
      "  \"drift_risk\": \"low\",",
      "  \"cycle_count\": 1,",
      "  \"frame_state_count\": 1,",
      "  \"memory_state_count\": 1,",
      "  \"active_policy_count\": 0,",
      "  \"next_frame_budget_ms\": 10.0,",
      "  \"hot_path_budget_ms\": 10.0,",
      "  \"copy_queue_budget_ms\": 1.5,",
      "  \"pre_frame_window_ms\": 0.0,",
      "  \"memory_relief_target_mb\": 0.0,",
      "  \"memory_headroom_target_mb\": 0.0,",
      "  \"state_digest\": \"profile:stable|policy:maintain-runtime-policy|frames:1|" ++
        "memory:0.0000:0.0000|cycle:1\",",
      "  \"frames\": [",
      "    \x7b",
      "      \"frame\": 1,",
      "      \"action\": \"monitor-cycle\",",
      "      \"admission_policy\": \"observe-admission\",",
      "      \"scheduler_policy\": \"observe\",",
      "      \"next_frame_budget_ms\": 10.0,",
      "      \"hot_path_budget_ms\": 10.0,",
      "      \"copy_queue_budget_ms\": 1.5,",
      "      \"pre_frame_window_ms\": 0.0,",
      "      \"guardband_ms\": 0.0,",
      "      \"cycle_count\": 1",
      "    \x7d",
      "  ],",
      "  \"memory\": [",
      "    \x7b",
      "      \"action\": \"hold-memory-residency\",",
      "      \"residency_policy\": \"hold-residency\",",
      "      \"relief_target_mb\": 0.0,",
      "      \"headroom_target_mb\": 0.0,",
      "      \"memory_delta_mb\": 0.0,",
      "      \"active\": false,",
      "      \"cycle_count\": 1",
      "    \x7d",
      "  ]",
      "\x7d"]

/-- The bytes of the calm state's text. -/
def calmBytes : List UInt8 :=
  Utf8.encode calmText.toList

/-- `json.dumps` and the encoding, of one state only. -/
def dumpsCalm (payload : Payload) : Option (List UInt8) :=
  match runtimeStateAccumulatorFromDict plainBuiltins (.dict payload) with
  | .ok state => if state = calmState then some calmBytes else none
  | .error _ => none

/-- The decoding and `json.loads`, of that one text. -/
def loadsCalm (text : List UInt8) : Option Json :=
  if text = calmBytes then some (.dict calmState.toDict) else none

/-- The calm state is written as these bytes. -/
theorem dumpsCalm_calmState : dumpsCalm calmState.toDict = some calmBytes := by
  unfold dumpsCalm
  rw [fromDict_calmState]
  exact if_pos rfl

/-- These bytes are read as the dictionary of the calm state. -/
theorem loadsCalm_calmBytes : loadsCalm calmBytes = some (.dict calmState.toDict) :=
  if_pos rfl

/-- Whatever is written is read again as it was. -/
theorem loadsCalm_dumpsCalm (state : RuntimeStateAccumulator) (text : List UInt8)
    (hmode : state.mode ∈ supportedStateAccumulatorModes)
    (h : dumpsCalm state.toDict = some text) : loadsCalm text = some (.dict state.toDict) := by
  unfold dumpsCalm at h
  rw [fromDict_toDict plainBuiltins hmode] at h
  dsimp only at h
  split at h
  · next hcalm =>
      obtain rfl := Option.some.inj h
      rw [loadsCalm_calmBytes, ← hcalm, toDict_rounded]
  · cases h

/-- What is given on the command line, in the working directory. -/
def givenPath : Path where
  parent := []
  name := "state"

/-- The path under which the state is kept. -/
def statePath : Path where
  parent := []
  name := "state.json"

/-- It is what the given path is normalized to. -/
theorem givenPath_normalized : normalizedJsonPath .plain givenPath = some statePath := by
  decide +kernel

/-- The first write of the state. -/
def firstCall : Call where
  path := statePath
  encoded := dumpsCalm calmState.toDict
  plain := plain_of_json (suffix_normalized givenPath_normalized)

/-- What is loaded before and after it. -/
def firstLoads : List Load :=
  [.ok none, .ok (some calmState)]

/-- A first cycle writes the calm state, and a load before and one after it return no state
and that one. -/
theorem loads_uninterrupted_first :
    ∃ acts s, Serves plainBuiltins dumpsCalm loadsCalm statePath noFiles acts s firstLoads ∧
      s.files.read statePath = some calmBytes ∧
      ∀ result ∈ firstLoads, ∃ previous, result = .ok previous ∧ Uninterrupted none previous := by
  have hcall : Computed dumpsCalm [.ok none] statePath firstCall :=
    ⟨none, [cycleUpdate 10 5 5], _, calmState, _, List.mem_singleton_self _,
      runCycles_kept none _, rfl, rfl, rfl⟩
  have hloaded : Serves plainBuiltins dumpsCalm loadsCalm statePath noFiles [] _ [.ok none] :=
    .load .start
  have hstep : Step { files := noFiles, writer := fun _ => none } (.call 0 firstCall) _ := .call rfl
  have hmade := hloaded.step hstep fun p call h _ => by
    obtain ⟨rfl, rfl⟩ := Act.call.inj h
    exact hcall
  obtain ⟨acts, hwritten⟩ := hmade.moved (p := 0) rfl
    (Moved.written firstCall dumpsCalm_calmState "0" rfl)
  rw [set_set] at hwritten
  have hread : (rewritten noFiles statePath "0" calmBytes).read statePath = some calmBytes :=
    read_rewritten firstCall.plain "0" calmBytes
  have hstate : loadRuntimeStateAccumulator plainBuiltins loadsCalm
      (rewritten noFiles statePath "0" calmBytes) statePath = .ok (some calmState) := by
    rw [load_eq hread loadsCalm_calmBytes, fromDict_calmState]
    rfl
  have hrun := hwritten.load
  have hloads : [.ok none] ++ [loadRuntimeStateAccumulator plainBuiltins loadsCalm
      (rewritten noFiles statePath "0" calmBytes) statePath] = firstLoads := by
    rw [hstate]
    rfl
  change Serves _ _ _ _ _ acts (System.set { files := noFiles, writer := fun _ => none } 0 firstCall
    .replaced _) ([.ok none] ++ [loadRuntimeStateAccumulator _ _
      (rewritten noFiles statePath "0" calmBytes) _]) at hrun
  rw [hloads] at hrun
  exact ⟨acts, _, hrun, hread,
    loads_uninterrupted givenPath_normalized loadsCalm_dumpsCalm noFiles_settled rfl hrun⟩

end FluidGateway.AtomicFile
