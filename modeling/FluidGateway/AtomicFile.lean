import FluidGateway.Lib.Storage
import Mathlib.Data.List.Nodup

/-!
# Files that are replaced whole

`fluidgateway/atomic_io.py`: a text is written to a temporary file beside the
file it is for, flushed and synced, and then takes its place.  Whatever fails on
the way, the temporary file is removed and the exception raised again.

Any number of processes do this at once, to the same files, and every system call
of theirs may fail.  A process that is killed is one that does nothing any more; a
loss of power stops all of them.  Directories are made where they are missing, and
are not modelled; an interrupt between `os.replace` and the return is left out.

Two things are assumed.  No file that is written is named like a temporary one, which
`Call` carries as a field; and where the power may be lost, everything that is there at
the start is on stable storage (`Settled`).

* What a file holds is always what it held at the start, or all of the content of
  a call that has replaced it, also after losses of power (`contents_whole`).
* Without them, the calls take place one at a time, when they replace
  (`contents_serial`), and nothing is left behind (`temporaries_removed`).
-/

namespace FluidGateway.AtomicFile

open Storage

/-- A file, in the directory of some parts. -/
structure Path where
  parent : List String
  name : String
  deriving DecidableEq, Repr

/-- What `mkstemp` may name the temporary file beside a path. -/
def Path.temporary (path : Path) (random : String) : Path :=
  { path with name := "." ++ path.name ++ "." ++ random ++ ".tmp" }

/-- The names that `mkstemp` makes for a target. -/
def Path.IsTemporary (path : Path) : Prop :=
  ∃ target random, path = Path.temporary target random

/-- A call of `atomic_write_text`.  No file that is written is named like a
temporary one. -/
structure Call where
  path : Path
  /-- The encoded content, if it can be encoded. -/
  encoded : Option (List UInt8)
  plain : ¬ path.IsTemporary

/-- How far a call is that has a temporary file. -/
inductive Stage where
  | created | opened | flushed | synced | failing
  deriving DecidableEq, Repr

/-- Where a call is: it has a temporary file, has replaced the target, has raised, perhaps
with its file left, or was stopped by a loss of power. -/
inductive Phase where
  | called
  | active (stage : Stage) (temporary : Path) (file : ℕ)
  | replaced
  | raised (left : Option Path)
  | stopped
  deriving DecidableEq, Repr

/-- The files of the machine, byte by byte. -/
abbrev Files := Disk Path UInt8

/-- What a process that writes does next, and what becomes of the files. -/
inductive Moves (call : Call) : Phase → Files → Phase → Files → Prop
  /-- `mkdir` or `mkstemp` raises. -/
  | refused {d : Files} : Moves call .called d (.raised none) d
  | mkstemp {d : Files} {temporary : Path} (random : String)
      (name : temporary = call.path.temporary random) (free : d.entry temporary = none) :
      Moves call .called d (.active .created temporary d.next) (d.create temporary)
  | fdopen {d : Files} {temporary : Path} {i : ℕ} :
      Moves call (.active .created temporary i) d (.active .opened temporary i) d
  /-- Some of what is buffered is written, also when the handle is closed by an exception. -/
  | drain {d : Files} {stage : Stage} {temporary : Path} {i : ℕ} {text bytes : List UInt8}
      (unsynced : stage = .opened ∨ stage = .failing) (encoded : call.encoded = some bytes)
      (more : (d.file i).text <+: text) (part : text <+: bytes) :
      Moves call (.active stage temporary i) d (.active stage temporary i) (d.write i text)
  | flush {d : Files} {temporary : Path} {i : ℕ} {bytes : List UInt8}
      (encoded : call.encoded = some bytes) :
      Moves call (.active .opened temporary i) d (.active .flushed temporary i) (d.write i bytes)
  | fsync {d : Files} {temporary : Path} {i : ℕ} :
      Moves call (.active .flushed temporary i) d (.active .synced temporary i) (d.sync i)
  | replace {d : Files} {temporary : Path} {i : ℕ} (found : d.entry temporary ≠ none) :
      Moves call (.active .synced temporary i) d .replaced (d.rename temporary call.path)
  | fail {d : Files} {stage : Stage} {temporary : Path} {i : ℕ} (running : stage ≠ .failing) :
      Moves call (.active stage temporary i) d (.active .failing temporary i) d
  | unlink {d : Files} {temporary : Path} {i : ℕ} :
      Moves call (.active .failing temporary i) d (.raised none) (d.unlink temporary)
  /-- The temporary file cannot be removed. -/
  | leave {d : Files} {temporary : Path} {i : ℕ} :
      Moves call (.active .failing temporary i) d (.raised (some temporary)) d

/-- The files, and the calls that were made. -/
structure System where
  files : Files
  writer : ℕ → Option (Call × Phase)

/-- What happens next: a process begins a call, a call moves on, or the power is lost. -/
inductive Act where
  | call (p : ℕ) (call : Call)
  | move (p : ℕ) (call : Call) (phase : Phase)
  | powerLoss

/-- What a loss of power makes of a call: only what is done stays done. -/
def Phase.afterLoss : Phase → Phase
  | .called => .stopped
  | .active _ _ _ => .stopped
  | phase => phase

/-- A process is in a phase of its call, and the files are as given. -/
def System.set (s : System) (p : ℕ) (call : Call) (phase : Phase) (files : Files) : System where
  files
  writer := Function.update s.writer p (some (call, phase))

/-- A step of the machine; any process that has a call may move, so that all interleavings
are runs. -/
inductive Step (s : System) : Act → System → Prop
  | call {p : ℕ} {call : Call} (new : s.writer p = none) :
      Step s (.call p call) (s.set p call .called s.files)
  | move {p : ℕ} {call : Call} {phase phase' : Phase} {files : Files}
      (writer : s.writer p = some (call, phase)) (moves : Moves call phase s.files phase' files) :
      Step s (.move p call phase') (s.set p call phase' files)
  | powerLoss {files : Files} (lost : s.files.Lost files) :
      Step s .powerLoss
        { files, writer := fun p => (s.writer p).map fun w => (w.1, w.2.afterLoss) }

/-- Runs from some files, with what was done. -/
inductive Run (start : Files) : List Act → System → Prop
  | start : Run start [] { files := start, writer := fun _ => none }
  | step {acts : List Act} {act : Act} {s t : System} (run : Run start acts s)
      (step : Step s act t) : Run start (acts ++ [act]) t

/-- Everything is on stable storage. -/
structure Settled (start : Files) : Prop where
  past : ∀ path, start.past path = [start.entry path]
  file : ∀ path i, start.entry path = some i → i < start.next ∧ (start.file i).synced = true

/-! ## One process -/

/-- What a call knows of its temporary file. -/
structure Holds (call : Call) (d : Files) (stage : Stage) (temporary : Path) (i : ℕ) : Prop where
  name : ∃ random, temporary = call.path.temporary random
  owns : d.Owns temporary i
  content : stage = .flushed ∨ stage = .synced → call.encoded = some (d.file i).text
  synced : stage = .synced → (d.file i).synced = true

/-- What a call in some phase knows of the files: while it has a temporary file, it holds
it. -/
def Holding (call : Call) (d : Files) : Phase → Prop
  | .active stage temporary i => Holds call d stage temporary i
  | _ => True

/-- The temporary file that a call may still write. -/
def Phase.held : Phase → Option Path
  | .active _ temporary _ => some temporary
  | _ => none

/-- The temporary file of a call, or the one it has left. -/
def Phase.temporary : Phase → Option Path
  | .active _ temporary _ => some temporary
  | .raised left => left
  | _ => none

/-- The file that a call holds has a name that `mkstemp` made. -/
theorem Holds.isTemporary {call : Call} {d : Files} {stage : Stage} {temporary : Path} {i : ℕ}
    (h : Holds call d stage temporary i) : temporary.IsTemporary :=
  h.name.elim fun random hname => ⟨call.path, random, hname⟩

/-- The file of a temporary name is not seen under a plain one. -/
theorem Holds.notMem_past {call : Call} {d : Files} {stage : Stage} {temporary path : Path} {i : ℕ}
    (h : Holds call d stage temporary i) (hpath : ¬ path.IsTemporary) : some i ∉ d.past path :=
  fun hi => hpath (h.owns.alone path hi ▸ h.isTemporary)

/-- A plain name is not a temporary one. -/
theorem ne_of_plain {path temporary : Path} (hpath : ¬ path.IsTemporary)
    (htemporary : temporary.IsTemporary) : path ≠ temporary :=
  fun h => hpath (h ▸ htemporary)

namespace Moves

variable {call other : Call} {phase phase' : Phase} {d d' : Files} {path : Path}

/-- A move keeps what holds of every disk: its names point at files that were made, and what
is seen may survive. -/
theorem sound (h : Moves call phase d phase' d') (hsound : d.Sound) : d'.Sound := by
  cases h with
  | refused | fdopen | fail | leave => exact hsound
  | mkstemp => exact hsound.create
  | drain | flush => exact hsound.write
  | fsync => exact hsound.sync
  | replace => exact hsound.rename
  | unlink => exact hsound.unlink

/-- A process keeps what it knows of its own file. -/
theorem holding (h : Moves call phase d phase' d') (hsound : d.Sound)
    (hholding : Holding call d phase) : Holding call d' phase' := by
  cases h with
  | refused | replace | unlink | leave => trivial
  | mkstemp random name =>
      exact ⟨⟨random, name⟩, hsound.create_owns, fun h => by cases h <;> contradiction,
        fun h => by cases h⟩
  | fdopen =>
      exact ⟨hholding.name, hholding.owns, fun h => by cases h <;> contradiction, fun h => by cases h⟩
  | @drain _ stage _ _ _ _ unsynced =>
      refine ⟨hholding.name, hholding.owns.write, fun h => ?_, fun h => ?_⟩
      · obtain rfl | rfl := unsynced <;> cases h <;> contradiction
      · obtain rfl | rfl := unsynced <;> cases h
  | flush encoded =>
      exact ⟨hholding.name, hholding.owns.write, fun _ => by rw [encoded, Disk.text_write],
        fun h => by cases h⟩
  | fsync =>
      refine ⟨hholding.name, hholding.owns.sync, fun _ => ?_, fun _ => Disk.synced_sync⟩
      rw [Disk.text_sync]
      exact hholding.content (.inl rfl)
  | fail =>
      exact ⟨hholding.name, hholding.owns, fun h => by cases h <;> contradiction, fun h => by cases h⟩

/-- A process leaves the files of others alone. -/
theorem holds_other (h : Moves call phase d phase' d') (hsound : d.Sound)
    (hholding : Holding call d phase) {stage : Stage} {temporary : Path} {i : ℕ}
    (hother : Holds other d stage temporary i) (hne : phase.held ≠ some temporary) :
    Holds other d' stage temporary i ∧ phase'.held ≠ some temporary := by
  have hfile : ∀ {stage' : Stage} {temporary' : Path} {j : ℕ},
      Holds call d stage' temporary' j → temporary' ≠ temporary → i ≠ j := by
    intro stage' temporary' j hmine htemporary hij
    subst hij
    exact htemporary (hother.owns.alone _ (hmine.owns.entry ▸ hsound.current _))
  cases h with
  | refused => exact ⟨hother, hne⟩
  | leave => exact ⟨hother, fun h => by cases h⟩
  | fdopen => exact ⟨hother, hne⟩
  | fail => exact ⟨hother, hne⟩
  | @mkstemp _ created random name free =>
      have hcreated : created ≠ temporary := by
        rintro rfl
        rw [hother.owns.entry] at free
        cases free
      have hi : i ≠ d.next := Nat.ne_of_lt (hsound.lt_next hother.owns.entry)
      have hsame : (d.create created).file i = d.file i := Disk.file_write_of_ne hi
      refine ⟨⟨hother.name, hother.owns.create hsound hcreated, ?_, ?_⟩,
        fun h => hcreated (Option.some.inj h)⟩
      · exact hsame ▸ hother.content
      · exact hsame ▸ hother.synced
  | @drain _ _ mine j text =>
      have hmine : mine ≠ temporary := fun h => hne (congrArg some h)
      have hsame : (d.write j text).file i = d.file i :=
        Disk.file_write_of_ne (hfile hholding hmine)
      exact ⟨⟨hother.name, hother.owns.write, hsame ▸ hother.content, hsame ▸ hother.synced⟩, hne⟩
  | @flush _ mine j bytes =>
      have hmine : mine ≠ temporary := fun h => hne (congrArg some h)
      have hsame : (d.write j bytes).file i = d.file i :=
        Disk.file_write_of_ne (hfile hholding hmine)
      exact ⟨⟨hother.name, hother.owns.write, hsame ▸ hother.content, hsame ▸ hother.synced⟩, hne⟩
  | @fsync _ mine j =>
      have hmine : mine ≠ temporary := fun h => hne (congrArg some h)
      have hsame : (d.sync j).file i = d.file i := Disk.file_sync_of_ne (hfile hholding hmine)
      exact ⟨⟨hother.name, hother.owns.sync, hsame ▸ hother.content, hsame ▸ hother.synced⟩, hne⟩
  | @replace _ mine j =>
      have hmine : mine ≠ temporary := fun h => hne (congrArg some h)
      have htarget := ne_of_plain call.plain hother.isTemporary
      exact ⟨⟨hother.name, hother.owns.rename hsound hmine htarget, hother.content, hother.synced⟩,
        fun h => by cases h⟩
  | @unlink _ mine j =>
      have hmine : mine ≠ temporary := fun h => hne (congrArg some h)
      exact ⟨⟨hother.name, hother.owns.unlink hmine, hother.content, hother.synced⟩,
        fun h => by cases h⟩

/-- What a process writes is seen under its path only, and when it replaces. -/
theorem whole (h : Moves call phase d phase' d') (hsound : d.Sound)
    (hholding : Holding call d phase) (hpath : ¬ path.IsTemporary)
    {good : Option (List UInt8) → Prop} (hwhole : d.Whole good path)
    (hgood : phase' = .replaced → call.path = path →
      ∀ bytes, call.encoded = some bytes → good (some bytes)) : d'.Whole good path := by
  cases h with
  | refused | fdopen | fail | leave => exact hwhole
  | mkstemp random name =>
      exact hwhole.create hsound (ne_of_plain hpath ⟨call.path, random, name⟩)
  | drain => exact hwhole.write (hholding.notMem_past hpath)
  | flush => exact hwhole.write (hholding.notMem_past hpath)
  | fsync => exact hwhole.sync
  | unlink => exact hwhole.unlink (ne_of_plain hpath hholding.isTemporary)
  | replace =>
      have htemporary := ne_of_plain hpath hholding.isTemporary
      by_cases htarget : call.path = path
      · subst htarget
        exact hwhole.rename htemporary hholding.owns.entry (hholding.synced rfl)
          (hgood rfl rfl _ (hholding.content (.inr rfl)))
      · exact hwhole.rename_of_ne htemporary (Ne.symm htarget)

/-- A move changes what is read under a plain name only where it replaces that name, and
then to what the call has encoded. -/
theorem read (h : Moves call phase d phase' d') (hsound : d.Sound)
    (hholding : Holding call d phase) (hpath : ¬ path.IsTemporary) :
    d'.read path = if phase' = .replaced ∧ call.path = path then call.encoded else d.read path := by
  have hentry : ∀ {stage : Stage} {temporary : Path} {i : ℕ},
      Holds call d stage temporary i → d.entry path ≠ some i := fun hholds =>
    hholds.owns.entry_ne hsound (ne_of_plain hpath hholds.isTemporary)
  cases h with
  | refused | fdopen | fail | leave => rfl
  | mkstemp random name =>
      have hne := ne_of_plain hpath ⟨call.path, random, name⟩
      have hcurrent : d.entry path ≠ some d.next := fun h =>
        Nat.lt_irrefl _ (hsound.lt_next h)
      unfold Disk.read
      rw [Disk.entry_create_of_ne hne]
      exact Disk.read_write hcurrent
  | drain => exact Disk.read_write (hentry hholding)
  | flush => exact Disk.read_write (hentry hholding)
  | fsync => exact Disk.read_sync
  | @unlink _ temporary _ =>
      unfold Disk.read
      rw [Disk.entry_unlink_of_ne (ne_of_plain hpath hholding.isTemporary)]
      rfl
  | @replace _ temporary _ =>
      have htemporary := ne_of_plain hpath hholding.isTemporary
      unfold Disk.read
      by_cases htarget : call.path = path
      · subst htarget
        rw [Disk.entry_rename htemporary, hholding.owns.entry, if_pos ⟨rfl, rfl⟩]
        exact (hholding.content (.inr rfl)).symm
      · rw [Disk.entry_rename_of_ne htemporary (Ne.symm htarget), if_neg fun h => htarget h.2]
        rfl

/-- Where a file that is there came from. -/
theorem present (h : Moves call phase d phase' d') {name : Path} (hname : d'.entry name ≠ none) :
    phase'.temporary = some name ∨ phase' = .replaced ∧ call.path = name ∨
      d.entry name ≠ none ∧ phase.temporary ≠ some name := by
  have hcases : ∀ temporary : Path, some temporary = some name ∨ name ≠ temporary := fun temporary =>
    (eq_or_ne name temporary).imp_left fun h => congrArg some h.symm
  cases h with
  | refused => exact .inr (.inr ⟨hname, fun h => by cases h⟩)
  | @mkstemp _ temporary =>
      refine (hcases temporary).imp_right fun hne => .inr ⟨?_, fun h => by cases h⟩
      rwa [Disk.entry_create_of_ne hne] at hname
  | @fdopen _ temporary | @drain _ _ temporary | @flush _ temporary | @fsync _ temporary
  | @fail _ _ temporary | @leave _ temporary =>
      exact (hcases temporary).imp_right fun hne =>
        .inr ⟨hname, fun h => hne (Option.some.inj h).symm⟩
  | @unlink _ temporary =>
      have hne : name ≠ temporary := by
        rintro rfl
        exact hname Disk.entry_unlink
      rw [Disk.entry_unlink_of_ne hne] at hname
      exact .inr (.inr ⟨hname, fun h => hne (Option.some.inj h).symm⟩)
  | @replace _ temporary =>
      have hne : name ≠ temporary := by
        rintro rfl
        exact hname Disk.entry_rename_source
      by_cases htarget : call.path = name
      · exact .inr (.inl ⟨rfl, htarget⟩)
      · rw [Disk.entry_rename_of_ne hne (Ne.symm htarget)] at hname
        exact .inr (.inr ⟨hname, fun h => hne (Option.some.inj h).symm⟩)

/-- Nothing follows the replacement. -/
theorem ne_replaced (h : Moves call phase d phase' d') : phase ≠ .replaced := by
  rintro rfl
  cases h

end Moves

/-- Moves of one process, one after the other. -/
inductive Moved (call : Call) (phase : Phase) (d : Files) : Phase → Files → Prop
  | refl : Moved call phase d phase d
  | tail {phase' phase'' : Phase} {d' d'' : Files} (moved : Moved call phase d phase' d')
      (moves : Moves call phase' d' phase'' d'') : Moved call phase d phase'' d''

/-- The files when a text was written to a temporary file, which then took its place. -/
def rewritten (d : Files) (path : Path) (random : String) (text : List UInt8) : Files :=
  (((d.create (path.temporary random)).write d.next text).sync d.next).rename
    (path.temporary random) path

/-- **A call that nothing disturbs replaces its file.** -/
theorem Moved.written (call : Call) {d : Files} {bytes : List UInt8}
    (hencoded : call.encoded = some bytes) (random : String)
    (free : d.entry (call.path.temporary random) = none) :
    Moved call .called d .replaced (rewritten d call.path random bytes) := by
  have hcreated : Moved call .called d _ _ := .tail .refl (.mkstemp random rfl free)
  have hsynced := ((hcreated.tail .fdopen).tail (.flush hencoded)).tail .fsync
  refine hsynced.tail (.replace ?_)
  have hentry : (d.create (call.path.temporary random)).entry (call.path.temporary random) =
      some d.next := Disk.entry_create
  exact hentry ▸ Option.some_ne_none _

/-- Then all of the text is read. -/
theorem read_rewritten {d : Files} {path : Path} (hpath : ¬ path.IsTemporary) (random : String)
    (text : List UInt8) : (rewritten d path random text).read path = some text := by
  have hne : path ≠ path.temporary random := ne_of_plain hpath ⟨path, random, rfl⟩
  have hentry : (((d.create (path.temporary random)).write d.next text).sync d.next).entry
      (path.temporary random) = some d.next := Disk.entry_create
  unfold rewritten Disk.read
  rw [Disk.entry_rename hne, hentry]
  exact congrArg some (Disk.text_sync.trans Disk.text_write)

/-! ## All processes -/

/-- A text that is there from the start, or the content of a call that has
replaced the file. -/
def Written (start : Files) (s : System) (path : Path) (text : Option (List UInt8)) : Prop :=
  text = start.read path ∨
    ∃ p call bytes, s.writer p = some (call, .replaced) ∧ call.path = path ∧
      call.encoded = some bytes ∧ text = some bytes

/-- What processes know of their files, and that no two hold the same temporary file. -/
structure Tidy (s : System) : Prop where
  sound : s.files.Sound
  holding : ∀ p call phase, s.writer p = some (call, phase) → Holding call s.files phase
  apart : ∀ p q call call' phase phase' temporary, s.writer p = some (call, phase) →
    s.writer q = some (call', phase') → phase.held = some temporary →
      phase'.held = some temporary → p = q

/-- All that a loss of power may show under a name is whole. -/
def WholeFiles (start : Files) (s : System) : Prop :=
  ∀ path, ¬ path.IsTemporary → s.files.Whole (Written start s path) path

/-- Setting a process changes that process and no other. -/
theorem writer_set {s : System} {p q : ℕ} {call : Call} {phase : Phase} {files : Files} :
    (s.set p call phase files).writer q = if q = p then some (call, phase) else s.writer q :=
  Function.update_apply s.writer p (some (call, phase)) q

/-- Of two settings of one process the later one counts. -/
theorem set_set {s : System} {p : ℕ} {call call' : Call} {phase phase' : Phase}
    {files files' : Files} :
    (s.set p call phase files).set p call' phase' files' = s.set p call' phase' files' :=
  congrArg (System.mk files') (Function.update_idem _ _ s.writer)

/-- Setting a process to where it is changes nothing. -/
theorem set_self {s : System} {p : ℕ} {call : Call} {phase : Phase}
    (h : s.writer p = some (call, phase)) : s.set p call phase s.files = s :=
  congrArg (System.mk s.files) (Function.update_eq_self_iff.mpr h.symm)

/-- Files on stable storage are sound. -/
theorem Settled.sound {start : Files} (h : Settled start) : start.Sound := by
  refine ⟨fun path i hi => ?_, fun path => ?_⟩
  · rw [h.past, List.mem_singleton] at hi
    exact (h.file path i hi.symm).1
  · rw [h.past]
    exact List.mem_singleton_self _

/-- Before any call, there is nothing to know. -/
theorem tidy_start {start : Files} (h : start.Sound) :
    Tidy { files := start, writer := fun _ => none } := by
  refine ⟨h, ?_, ?_⟩
  · intro p call phase hwriter
    cases hwriter
  · intro p q call call' phase phase' temporary hwriter
    cases hwriter

/-- Before any call every name shows what it did, and that is on stable storage. -/
theorem wholeFiles_start {start : Files} (h : Settled start) :
    WholeFiles start { files := start, writer := fun _ => none } := by
  intro path _ e he
  rw [h.past, List.mem_singleton] at he
  subst he
  exact ⟨.inl rfl, fun i hi => (h.file path i hi).2⟩

/-- A process that begins has no file, and leaves those of the others. -/
theorem writer_called {s : System} {p q : ℕ} {call call' : Call} {phase : Phase}
    (new : s.writer p = none) (hphase : phase ≠ .called) :
    (s.set p call .called s.files).writer q = some (call', phase) ↔
      s.writer q = some (call', phase) := by
  rw [writer_set]
  split
  · next hq =>
      subst hq
      rw [new]
      refine iff_of_false (fun h => hphase ?_) (fun h => by cases h)
      exact (Prod.mk.inj (Option.some.inj h)).2.symm
  · exact Iff.rfl

/-- No call holds a file after the power was lost. -/
theorem afterLoss_held (phase : Phase) : phase.afterLoss.held = none := by
  cases phase <;> rfl

/-- After a loss of power every phase is what the loss has made of one. -/
theorem writer_afterLoss {s : System} {p : ℕ} {call : Call} {phase : Phase}
    (hp : (s.writer p).map (fun w => (w.1, w.2.afterLoss)) = some (call, phase)) :
    ∃ phase' : Phase, phase = phase'.afterLoss := by
  obtain ⟨w, -, hw⟩ := Option.map_eq_some_iff.mp hp
  exact ⟨w.2, (Prod.mk.inj hw).2.symm⟩

namespace Tidy

variable {s t : System}

/-- A call that is made has no file yet. -/
theorem call (h : Tidy s) {p : ℕ} {call : Call} (new : s.writer p = none) :
    Tidy (s.set p call .called s.files) := by
  refine ⟨h.sound, ?_, ?_⟩
  · intro q call' phase hq
    by_cases hphase : phase = .called
    · subst hphase
      trivial
    · exact h.holding q call' phase ((writer_called new hphase).mp hq)
  · intro q q' call' call'' phase phase' temporary hq hq' hheld hheld'
    have hphase : phase ≠ .called := by
      rintro rfl
      cases hheld
    have hphase' : phase' ≠ .called := by
      rintro rfl
      cases hheld'
    exact h.apart q q' call' call'' phase phase' temporary ((writer_called new hphase).mp hq)
      ((writer_called new hphase').mp hq') hheld hheld'

/-- A move of one process leaves the others what they hold: no two hold the same name, and a
move touches its own only. -/
theorem move (h : Tidy s) {p : ℕ} {call : Call} {phase phase' : Phase} {files : Files}
    (writer : s.writer p = some (call, phase)) (moves : Moves call phase s.files phase' files) :
    Tidy (s.set p call phase' files) := by
  have hmine := h.holding p call phase writer
  have hother : ∀ q call' stage temporary i, q ≠ p →
      s.writer q = some (call', .active stage temporary i) →
        Holds call' files stage temporary i ∧ phase'.held ≠ some temporary := by
    intro q call' stage temporary i hq hwriter
    refine moves.holds_other h.sound hmine (h.holding q call' _ hwriter) fun hheld => hq ?_
    exact h.apart q p call' call _ phase temporary hwriter writer rfl hheld
  refine ⟨moves.sound h.sound, ?_, ?_⟩
  · intro q call' phase'' hwriter
    rw [writer_set] at hwriter
    split at hwriter
    · obtain ⟨rfl, rfl⟩ := Prod.mk.inj (Option.some.inj hwriter)
      exact moves.holding h.sound hmine
    · next hq =>
        cases phase'' with
        | active stage temporary i => exact (hother q call' stage temporary i hq hwriter).1
        | called | replaced | raised | stopped => trivial
  · intro q q' call' call'' phase₁ phase₂ temporary hwriter hwriter' hheld hheld'
    have hactive : ∀ {phase₃ : Phase}, phase₃.held = some temporary →
        ∃ stage i, phase₃ = .active stage temporary i := by
      intro phase₃ hphase₃
      cases phase₃ with
      | active stage temporary' i =>
          obtain rfl := Option.some.inj hphase₃
          exact ⟨stage, i, rfl⟩
      | called | replaced | raised | stopped => cases hphase₃
    rw [writer_set] at hwriter hwriter'
    split at hwriter <;> split at hwriter'
    · next hq hq' => exact hq.trans hq'.symm
    · next hq hq' =>
        obtain ⟨rfl, rfl⟩ := Prod.mk.inj (Option.some.inj hwriter)
        obtain ⟨stage, i, rfl⟩ := hactive hheld'
        exact absurd hheld (hother q' call'' stage temporary i hq' hwriter').2
    · next hq hq' =>
        obtain ⟨rfl, rfl⟩ := Prod.mk.inj (Option.some.inj hwriter')
        obtain ⟨stage, i, rfl⟩ := hactive hheld
        exact absurd hheld' (hother q call' stage temporary i hq hwriter).2
    · exact h.apart q q' call' call'' phase₁ phase₂ temporary hwriter hwriter' hheld hheld'

/-- After a loss of power no call has a file, so nothing is left to know. -/
theorem powerLoss (h : Tidy s) {files : Files} (lost : s.files.Lost files) :
    Tidy { files, writer := fun p => (s.writer p).map fun w => (w.1, w.2.afterLoss) } := by
  refine ⟨h.sound.lost lost, ?_, ?_⟩
  · intro p call phase hp
    obtain ⟨phase', rfl⟩ := writer_afterLoss hp
    cases phase' <;> trivial
  · intro p q call call' phase phase' temporary hp _ hheld
    obtain ⟨phase'', rfl⟩ := writer_afterLoss hp
    rw [afterLoss_held] at hheld
    cases hheld

/-- Every step keeps the files tidy, by the lemma about its kind. -/
theorem step (h : Tidy s) {act : Act} (hstep : Step s act t) : Tidy t := by
  cases hstep with
  | call new => exact h.call new
  | move writer moves => exact h.move writer moves
  | powerLoss lost => exact h.powerLoss lost

end Tidy

/-- What was written stays written. -/
theorem Written.step {start : Files} {s t : System} {act : Act} (hstep : Step s act t)
    {path : Path} {text : Option (List UInt8)} (h : Written start s path text) :
    Written start t path text := by
  refine h.imp_right fun hcall => ?_
  obtain ⟨q, call', bytes, hq, hrest⟩ := hcall
  refine ⟨q, call', bytes, ?_, hrest⟩
  cases hstep with
  | call new => exact (writer_called new (by decide)).mpr hq
  | @move p call phase phase' files writer moves =>
      rw [writer_set, if_neg]
      · exact hq
      · rintro rfl
        rw [writer] at hq
        exact moves.ne_replaced (Prod.mk.inj (Option.some.inj hq)).2
  | powerLoss lost =>
      dsimp only
      rw [hq]
      rfl

/-- Files stay whole. -/
theorem WholeFiles.step {start : Files} {s t : System} {act : Act} (h : WholeFiles start s)
    (htidy : Tidy s) (hstep : Step s act t) : WholeFiles start t := by
  intro path hpath
  have hwhole := (h path hpath).mono fun text htext => Written.step hstep htext
  cases hstep with
  | call new => exact hwhole
  | powerLoss lost => exact hwhole.lost lost
  | @move p call phase phase' files writer moves =>
      refine moves.whole htidy.sound (htidy.holding p call phase writer) hpath hwhole ?_
      intro hphase htarget bytes hbytes
      refine .inr ⟨p, call, bytes, ?_, htarget, hbytes, rfl⟩
      rw [writer_set, if_pos rfl, hphase]

/-- The files are tidy in every run, by induction on what was done. -/
theorem Run.tidy {start : Files} {acts : List Act} {s : System} (hsound : start.Sound)
    (h : Run start acts s) : Tidy s := by
  induction h with
  | start => exact tidy_start hsound
  | step _ hstep ih => exact ih.step hstep

/-- Every name shows whole files in every run from stable storage, losses of power included. -/
theorem Run.wholeFiles {start : Files} {acts : List Act} {s : System} (hsettled : Settled start)
    (h : Run start acts s) : WholeFiles start s := by
  induction h with
  | start => exact wholeFiles_start hsettled
  | step hrun hstep ih => exact ih.step (hrun.tidy hsettled.sound) hstep

/-- While one process moves, the power is not lost. -/
theorem Run.moved {start : Files} {acts : List Act} {s : System} {p : ℕ} {call : Call}
    {phase phase' : Phase} {files : Files} (h : Run start acts s) (hpower : .powerLoss ∉ acts)
    (hp : s.writer p = some (call, phase)) (hmoved : Moved call phase s.files phase' files) :
    ∃ acts', Run start acts' (s.set p call phase' files) ∧ .powerLoss ∉ acts' := by
  induction hmoved with
  | refl => exact ⟨acts, by rwa [set_self hp], hpower⟩
  | @tail before after d d' _ moves ih =>
      obtain ⟨acts', hrun, hpower'⟩ := ih
      have hstep := Step.move (s := s.set p call before d) (by rw [writer_set, if_pos rfl]) moves
      rw [set_set] at hstep
      refine ⟨_, hrun.step hstep, ?_⟩
      rw [List.mem_append, List.mem_singleton, not_or]
      exact ⟨hpower', fun h => by cases h⟩

/-- **Files are whole.** Whatever processes write files at once, whatever fails and
whenever the power is lost, a file holds what it held at the start, or all of the
content of a call that has replaced it. -/
theorem contents_whole {start : Files} {acts : List Act} {s : System} {path : Path}
    (hsettled : Settled start) (h : Run start acts s) (hpath : ¬ path.IsTemporary) :
    Written start s path (s.files.read path) :=
  (h.wholeFiles hsettled path hpath).read (h.tidy hsettled.sound).sound

/-- A disk without files. -/
def noFiles : Files where
  entry _ := none
  past _ := [none]
  file _ := { text := [], synced := false }
  next := 0

/-- A disk without files is on stable storage. -/
theorem noFiles_settled : Settled noFiles :=
  ⟨fun _ => rfl, fun path i h => by cases h⟩

/-- A report of some characters. -/
def reportCall (text : List UInt8) : Call where
  path := { parent := [], name := "report" }
  encoded := some text
  plain := by
    rintro ⟨target, random, h⟩
    have hname := congrArg (fun path => path.name.toList.head?) h
    simp [Path.temporary] at hname

/-- Two processes write the report: process 1 has one of its two characters in its
temporary file when process 0 is done. -/
def overtaken : System :=
  let path := (reportCall []).path
  let begun := System.set (System.set { files := noFiles, writer := fun _ => none }
    0 (reportCall [48]) .called noFiles) 1 (reportCall [49, 50]) .called noFiles
  let half := begun.set 1 (reportCall [49, 50]) (.active .opened (path.temporary "1") 0)
    ((noFiles.create (path.temporary "1")).write 0 [49])
  half.set 0 (reportCall [48]) .replaced (rewritten half.files path "0" [48])

/-- Nothing was lost until then. -/
theorem overtaken_run : ∃ acts, Run noFiles acts overtaken ∧ .powerLoss ∉ acts := by
  have hbegun : Run noFiles [.call 0 (reportCall [48])] _ := Run.start.step (.call rfl)
  have hcalled : Run noFiles [.call 0 (reportCall [48]), .call 1 (reportCall [49, 50])] _ :=
    hbegun.step (.call rfl)
  have hpower : .powerLoss ∉ [Act.call 0 (reportCall [48]), .call 1 (reportCall [49, 50])] := by
    simp
  have hopened : Moved (reportCall [49, 50]) .called noFiles _ _ :=
    (Moved.refl.tail (.mkstemp "1" rfl rfl)).tail .fdopen
  obtain ⟨acts, hrun, hlost⟩ := hcalled.moved (p := 1) hpower rfl
    (hopened.tail (.drain (.inl rfl) rfl List.nil_prefix (List.prefix_append [49] [50])))
  exact hrun.moved (p := 0) hlost rfl (Moved.written (reportCall [48]) rfl "0" (by decide +kernel))

/-- The power is lost while process 1 writes, and nothing is right any more in its
temporary file: what is read is what process 0 has written. -/
theorem contents_whole_report :
    ∃ acts s, Run noFiles acts s ∧ .powerLoss ∈ acts ∧
      s.files.read ((reportCall []).path.temporary "1") = some [255] ∧
      s.files.read (reportCall []).path = some [48] ∧
      Written noFiles s (reportCall []).path (s.files.read (reportCall []).path) := by
  obtain ⟨acts, hrun, -⟩ := overtaken_run
  have hlost : overtaken.files.Lost { overtaken.files with
      file := Function.update overtaken.files.file 0 { text := [255], synced := false } } := by
    refine ⟨(hrun.tidy noFiles_settled.sound).sound.current, rfl, rfl, fun i hi => ?_⟩
    apply Function.update_of_ne
    rintro rfl
    exact absurd hi (by decide +kernel)
  have hafter := hrun.step (.powerLoss hlost)
  exact ⟨_, _, hafter, List.mem_append_right _ (List.mem_singleton_self _), by decide +kernel,
    by decide +kernel, contents_whole noFiles_settled hafter (reportCall []).plain⟩

/-! ## Runs without a loss of power -/

/-- The calls that have replaced their file, in order. -/
def replacements : List Act → List (ℕ × Call)
  | [] => []
  | .move p call .replaced :: acts => (p, call) :: replacements acts
  | _ :: acts => replacements acts

/-- What replaced its file in two runs in a row replaced it in the one or the other. -/
theorem replacements_append (acts more : List Act) :
    replacements (acts ++ more) = replacements acts ++ replacements more := by
  induction acts with
  | nil => rfl
  | cons act acts ih =>
      cases act with
      | call | powerLoss => exact ih
      | move p call phase =>
          cases phase with
          | replaced => exact congrArg ((p, call) :: ·) ih
          | called | active | raised | stopped => exact ih

/-- What the last of some replacements leaves under a path. -/
def lastContent (path : Path) (calls : List (ℕ × Call)) (text : Option (List UInt8)) :
    Option (List UInt8) :=
  calls.foldl (fun text w => if w.2.path = path then w.2.encoded else text) text

/-- The calls take effect one at a time. -/
structure Serial (start : Files) (acts : List Act) (s : System) : Prop where
  once : ((replacements acts).map Prod.fst).Nodup
  replaced : ∀ p call, (p, call) ∈ replacements acts ↔ s.writer p = some (call, .replaced)
  read : ∀ path, ¬ path.IsTemporary →
    s.files.read path = lastContent path (replacements acts) (start.read path)

/-- Files that are there were there, or are those of calls. -/
def Accounted (start : Files) (s : System) : Prop :=
  ∀ path, s.files.entry path ≠ none → start.entry path ≠ none ∨
    ∃ p call phase, s.writer p = some (call, phase) ∧
      (phase = .replaced ∧ call.path = path ∨ phase.temporary = some path)

/-- A step that replaces adds one call to the order, and leaves its content; any other step
leaves order and contents. The cases are the kinds of steps, and for a move whether it
replaces. -/
theorem Step.serial {start : Files} {acts : List Act} {act : Act} {s t : System}
    (hstep : Step s act t) (hpower : act ≠ .powerLoss) (htidy : Tidy s)
    (h : Serial start acts s) : Serial start (acts ++ [act]) t := by
  cases hstep with
  | powerLoss => exact absurd rfl hpower
  | @call p call new =>
      have hsame : replacements (acts ++ [.call p call]) = replacements acts := by
        rw [replacements_append]
        exact List.append_nil _
      refine ⟨hsame ▸ h.once, fun q call' => ?_, fun path hpath => hsame ▸ h.read path hpath⟩
      rw [hsame, h.replaced, writer_set]
      split
      · next hq =>
          subst hq
          rw [new]
          exact iff_of_false (fun h => by cases h) fun h => by cases h
      · exact Iff.rfl
  | @move p call phase phase' files writer moves =>
      have hmine := htidy.holding p call phase writer
      have hread := fun (path : Path) (hpath : ¬ path.IsTemporary) => moves.read htidy.sound hmine hpath
      have hold : ∀ call', s.writer p ≠ some (call', .replaced) := by
        intro call' hp
        rw [writer] at hp
        exact moves.ne_replaced (Prod.mk.inj (Option.some.inj hp)).2
      by_cases hphase : phase' = .replaced
      · subst hphase
        have hmore : replacements (acts ++ [.move p call .replaced]) =
            replacements acts ++ [(p, call)] := replacements_append _ _
        have hnew : p ∉ (replacements acts).map Prod.fst := by
          intro hp
          obtain ⟨⟨q, call'⟩, hmem, rfl⟩ := List.mem_map.mp hp
          exact hold call' ((h.replaced _ _).mp hmem)
        refine ⟨?_, fun q call' => ?_, fun path hpath => ?_⟩
        · rw [hmore, List.map_append]
          refine h.once.append (List.nodup_singleton _) ?_
          exact List.disjoint_singleton.mpr hnew
        · rw [hmore, List.mem_append, h.replaced, writer_set, List.mem_singleton]
          split
          · next hq =>
              subst hq
              rw [or_iff_right (hold call')]
              simp [eq_comm]
          · next hq => exact or_iff_left fun h => hq (Prod.mk.inj h).1
        · change files.read path = _
          rw [hread path hpath, h.read path hpath, hmore]
          simp [lastContent]
      · have hsame : replacements (acts ++ [.move p call phase']) = replacements acts := by
          rw [replacements_append]
          cases phase' with
          | replaced => exact absurd rfl hphase
          | called | active | raised | stopped => exact List.append_nil _
        refine ⟨hsame ▸ h.once, fun q call' => ?_, fun path hpath => ?_⟩
        · rw [hsame, h.replaced, writer_set]
          split
          · next hq =>
              subst hq
              refine iff_of_false (hold call') fun h => hphase ?_
              exact (Prod.mk.inj (Option.some.inj h)).2
          · exact Iff.rfl
        · change files.read path = _
          rw [hread path hpath, hsame, if_neg fun h => hphase h.1]
          exact h.read path hpath

/-- A file that a step makes belongs to the call that made it, and a file that is given up
is gone or named in what the call raised. -/
theorem Step.accounted {start : Files} {act : Act} {s t : System} (hstep : Step s act t)
    (hpower : act ≠ .powerLoss) (h : Accounted start s) : Accounted start t := by
  cases hstep with
  | powerLoss => exact absurd rfl hpower
  | @call p call new =>
      intro path hpath
      refine (h path hpath).imp_right ?_
      rintro ⟨q, call', phase, hq, hrest⟩
      refine ⟨q, call', phase, ?_, hrest⟩
      rw [writer_set, if_neg]
      · exact hq
      · rintro rfl
        rw [new] at hq
        cases hq
  | @move p call phase phase' files writer moves =>
      intro path hpath
      obtain htemporary | htarget | ⟨hbefore, hphase⟩ := moves.present hpath
      · exact .inr ⟨p, call, phase', by rw [writer_set, if_pos rfl], .inr htemporary⟩
      · exact .inr ⟨p, call, phase', by rw [writer_set, if_pos rfl], .inl htarget⟩
      · refine (h path hbefore).imp_right ?_
        rintro ⟨q, call', phase'', hq, hrest⟩
        refine ⟨q, call', phase'', ?_, hrest⟩
        rw [writer_set, if_neg]
        · exact hq
        · rintro rfl
          rw [writer] at hq
          obtain ⟨rfl, rfl⟩ := Prod.mk.inj (Option.some.inj hq)
          obtain hrest | hrest := hrest
          · exact moves.ne_replaced hrest.1
          · exact hphase hrest

/-- **Writes are atomic.** While the power is not lost, the calls that replace do so
once each, and what is read is what the last of them for that file has written: a
call that has not replaced its file has changed nothing. -/
theorem contents_serial {start : Files} {acts : List Act} {s : System}
    (hsound : start.Sound) (h : Run start acts s) (hpower : .powerLoss ∉ acts) :
    Serial start acts s := by
  induction h with
  | start =>
      refine ⟨List.nodup_nil, fun p call => ?_, fun path _ => rfl⟩
      exact iff_of_false List.not_mem_nil fun h => by cases h
  | step hrun hstep ih =>
      rw [List.mem_append, not_or, List.mem_singleton] at hpower
      exact hstep.serial (Ne.symm hpower.2) (hrun.tidy hsound) (ih hpower.1)

/-- **Nothing is left behind.** While the power is not lost, a file that is there was
there at the start, or it is the file of a call that has replaced it, or the temporary
file of one that is not done or could not remove it. -/
theorem temporaries_removed {start : Files} {acts : List Act} {s : System}
    (h : Run start acts s) (hpower : .powerLoss ∉ acts) : Accounted start s := by
  induction h with
  | start => exact fun path hpath => .inl hpath
  | step hrun hstep ih =>
      rw [List.mem_append, not_or, List.mem_singleton] at hpower
      exact hstep.accounted (Ne.symm hpower.2) (ih hpower.1)

/-- Process 1 goes on, and replaces what process 0 has written. -/
theorem contents_serial_report :
    ∃ acts s, Run noFiles acts s ∧ s.writer 0 = some (reportCall [48], .replaced) ∧
      s.writer 1 = some (reportCall [49, 50], .replaced) ∧
      s.files.read (reportCall []).path = some [49, 50] ∧ Serial noFiles acts s := by
  obtain ⟨acts, hrun, hpower⟩ := overtaken_run
  have hmoved : Moved (reportCall [49, 50])
      (.active .opened ((reportCall []).path.temporary "1") 0) overtaken.files _ _ :=
    ((Moved.refl.tail (.flush rfl)).tail .fsync).tail (.replace (by decide +kernel))
  obtain ⟨acts', hrun', hpower'⟩ := hrun.moved (p := 1) hpower rfl hmoved
  exact ⟨acts', _, hrun', rfl, rfl, by decide +kernel,
    contents_serial noFiles_settled.sound hrun' hpower'⟩

/-- Process 1 fails, and removes its temporary file: only the report is there. -/
theorem temporaries_removed_report :
    ∃ acts s, Run noFiles acts s ∧ s.writer 0 = some (reportCall [48], .replaced) ∧
      s.writer 1 = some (reportCall [49, 50], .raised none) ∧ Accounted noFiles s ∧
      s.files.entry ((reportCall []).path.temporary "1") = none ∧
      s.files.read (reportCall []).path = some [48] := by
  obtain ⟨acts, hrun, hpower⟩ := overtaken_run
  have hmoved : Moved (reportCall [49, 50])
      (.active .opened ((reportCall []).path.temporary "1") 0) overtaken.files _ _ :=
    (Moved.refl.tail (.fail (by decide))).tail .unlink
  obtain ⟨acts', hrun', hpower'⟩ := hrun.moved (p := 1) hpower rfl hmoved
  exact ⟨acts', _, hrun', rfl, rfl, temporaries_removed hrun' hpower', by decide +kernel,
    by decide +kernel⟩

end FluidGateway.AtomicFile
