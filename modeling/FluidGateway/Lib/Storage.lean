import Mathlib.Logic.Function.Basic
import Mathlib.Data.List.Basic

/-!
# Names, files and stable storage

A disk has files, and names that stand for files.  What is written to a file is
read at once, but only the text of a synced file is sure to outlast a loss of
power; and a name may then stand for any file that it ever stood for, since
changes of names are never synced (`Lost`).

Two things can be said of a name.  It is whole when every file that it may stand
for is synced, and holds a text it may hold (`Whole`): then no loss of power shows
anything else.  It owns a file that no other name ever stood for (`Owns`): then
writing to the file is seen under that name only.  A name stays whole while files
that other names own are written, and when it is given such a file that is synced
(`Whole.rename`).
-/

namespace Storage

/-- A file, and whether its text is on stable storage. -/
structure File (β : Type*) where
  text : List β
  synced : Bool

/-- The file that each name stands for, those it ever stood for, and the files,
which are numbered as they are made. -/
structure Disk (ν β : Type*) where
  entry : ν → Option ℕ
  past : ν → List (Option ℕ)
  file : ℕ → File β
  next : ℕ

namespace Disk

variable {ν β : Type*} {d d' : Disk ν β} {name other : ν} {i j : ℕ} {text : List β}
  {good better : Option (List β) → Prop}

/-- What is read under a name: the text of the file that it stands for, if it stands for
one. -/
def read (d : Disk ν β) (name : ν) : Option (List β) :=
  (d.entry name).map fun i => (d.file i).text

/-- Names stand for files that were made, and for those they stood for. -/
structure Sound (d : Disk ν β) : Prop where
  made : ∀ name i, some i ∈ d.past name → i < d.next
  current : ∀ name, d.entry name ∈ d.past name

/-- What a loss of power may leave. -/
structure Lost (d d' : Disk ν β) : Prop where
  entry : ∀ name, d'.entry name ∈ d.past name
  past : d'.past = d.past
  next : d'.next = d.next
  file : ∀ i, (d.file i).synced = true → d'.file i = d.file i

/-- No other name ever stood for the file of this one. -/
structure Owns (d : Disk ν β) (name : ν) (i : ℕ) : Prop where
  entry : d.entry name = some i
  alone : ∀ other, some i ∈ d.past other → other = name

/-- Whatever a loss of power shows under a name is synced, and good. -/
def Whole (good : Option (List β) → Prop) (d : Disk ν β) (name : ν) : Prop :=
  ∀ e ∈ d.past name, good (e.map fun i => (d.file i).text) ∧ ∀ i ∈ e, (d.file i).synced = true

/-- What a name stands for was made. -/
theorem Sound.lt_next (h : d.Sound) (hentry : d.entry name = some i) : i < d.next :=
  h.made name i (hentry ▸ h.current name)

/-- Other names stand for other files. -/
theorem Owns.entry_ne (h : d.Owns name i) (hsound : d.Sound) (hne : other ≠ name) :
    d.entry other ≠ some i :=
  fun hentry => hne (h.alone other (hentry ▸ hsound.current other))

/-- A name that is whole for some texts is whole for any property that these texts have. -/
theorem Whole.mono (h : d.Whole good name) (himp : ∀ text, good text → better text) :
    d.Whole better name :=
  fun e he => ⟨himp _ (h e he).1, (h e he).2⟩

/-- What is read is good. -/
theorem Whole.read (h : d.Whole good name) (hsound : d.Sound) : good (d.read name) :=
  (h _ (hsound.current name)).1

/-! ### A loss of power -/

/-- What a loss of power leaves is sound: the names fall back to files that they stood for,
and these were made. -/
theorem Sound.lost (h : d.Sound) (hlost : d.Lost d') : d'.Sound :=
  ⟨fun other i hi => hlost.next ▸ h.made other i (hlost.past ▸ hi),
    fun other => hlost.past ▸ hlost.entry other⟩

/-- **A loss of power shows nothing else.** -/
theorem Whole.lost (h : d.Whole good name) (hlost : d.Lost d') : d'.Whole good name := by
  intro e he
  rw [hlost.past] at he
  obtain ⟨hgood, hsynced⟩ := h e he
  have hfile : ∀ j ∈ e, d'.file j = d.file j := fun j hj => hlost.file j (hsynced j hj)
  refine ⟨?_, fun j hj => ?_⟩
  · rw [Option.map_congr (x := e) fun j hj => congrArg File.text (hfile j hj)]
    exact hgood
  · rw [hfile j hj]
    exact hsynced j hj

/-! ### Files -/

/-- A text is written to a file. -/
def write (d : Disk ν β) (i : ℕ) (text : List β) : Disk ν β :=
  { d with file := Function.update d.file i { text, synced := false } }

/-- The text of a file is put on stable storage; the names are not. -/
def sync (d : Disk ν β) (i : ℕ) : Disk ν β :=
  { d with file := Function.update d.file i { d.file i with synced := true } }

/-- What has been written to a file is its text at once, synced or not. -/
@[simp] theorem text_write : ((d.write i text).file i).text = text := by
  simp [write]

/-- Syncing changes no text. -/
@[simp] theorem text_sync : ((d.sync i).file j).text = (d.file j).text := by
  by_cases hj : j = i
  · subst hj
    simp [sync]
  · simp [sync, hj]

/-- After it was synced a file is synced, until something is written to it. -/
@[simp] theorem synced_sync : ((d.sync i).file i).synced = true := by
  simp [sync]

/-- Writing to one file leaves every other as it is. -/
theorem file_write_of_ne (h : j ≠ i) : (d.write i text).file j = d.file j :=
  Function.update_of_ne h _ _

/-- Syncing one file leaves every other as it is. -/
theorem file_sync_of_ne (h : j ≠ i) : (d.sync i).file j = d.file j :=
  Function.update_of_ne h _ _

/-- A write is not seen under a name that stands for another file. -/
theorem read_write (h : d.entry name ≠ some i) : (d.write i text).read name = d.read name :=
  Option.map_congr fun j hj => by
    rw [file_write_of_ne]
    rintro rfl
    exact h hj

/-- Syncing is not seen by a reader. -/
@[simp] theorem read_sync : (d.sync i).read name = d.read name :=
  Option.map_congr fun _ _ => text_sync

/-- A write touches no name, so that names still stand for files that were made. -/
theorem Sound.write (h : d.Sound) : (d.write i text).Sound :=
  ⟨h.made, h.current⟩

/-- Syncing touches no name either. -/
theorem Sound.sync (h : d.Sound) : (d.sync i).Sound :=
  ⟨h.made, h.current⟩

/-- A name keeps its file to itself while any file is written to. -/
theorem Owns.write (h : d.Owns name i) : (d.write j text).Owns name i :=
  ⟨h.entry, h.alone⟩

/-- A name keeps its file to itself while any file is synced. -/
theorem Owns.sync (h : d.Owns name i) : (d.sync j).Owns name i :=
  ⟨h.entry, h.alone⟩

/-- A name stays whole while a file is written to that it never stood for. -/
theorem Whole.write (h : d.Whole good name) (hi : some i ∉ d.past name) :
    (d.write i text).Whole good name := by
  intro e he
  obtain ⟨hgood, hsynced⟩ := h e he
  have hfile : ∀ j ∈ e, (d.write i text).file j = d.file j := by
    intro j hj
    apply file_write_of_ne
    rintro rfl
    exact hi (Option.mem_def.mp hj ▸ he)
  refine ⟨?_, fun j hj => ?_⟩
  · rw [Option.map_congr (x := e) fun j hj => congrArg File.text (hfile j hj)]
    exact hgood
  · rw [hfile j hj]
    exact hsynced j hj

/-- A name stays whole while any file is synced: what it may show is the same, and no less
synced. -/
theorem Whole.sync (h : d.Whole good name) : (d.sync i).Whole good name := by
  intro e he
  refine ⟨?_, fun j hj => ?_⟩
  · simpa only [text_sync] using (h e he).1
  · by_cases hij : j = i
    · subst hij
      exact synced_sync
    · rw [file_sync_of_ne hij]
      exact (h e he).2 j hj

/-! ### Names -/

section Names

variable [DecidableEq ν] {source target : ν} {e : Option ℕ}

/-- A name is made to stand for a file, or for none. -/
def link (d : Disk ν β) (name : ν) (target : Option ℕ) : Disk ν β :=
  { d with
    entry := Function.update d.entry name target
    past := Function.update d.past name (target :: d.past name) }

/-- A new file, without text. -/
def create (d : Disk ν β) (name : ν) : Disk ν β :=
  { (d.link name (some d.next)).write d.next [] with next := d.next + 1 }

/-- A name is taken away; its file and what it stood for are remembered. -/
def unlink (d : Disk ν β) (name : ν) : Disk ν β :=
  d.link name none

/-- A name is given the file of another, which then has none. -/
def rename (d : Disk ν β) (source target : ν) : Disk ν β :=
  (d.link target (d.entry source)).unlink source

/-- A name stands for what it was given last. -/
@[simp] theorem entry_link : (d.link name e).entry name = e := by
  simp [link]

/-- Giving a file to one name leaves every other as it is. -/
theorem entry_link_of_ne (h : other ≠ name) : (d.link name e).entry other = d.entry other :=
  Function.update_of_ne h _ _

/-- What a name is given is added to what it ever stood for. -/
theorem past_link : (d.link name e).past name = e :: d.past name := by
  simp [link]

/-- What another name ever stood for stays the same. -/
theorem past_link_of_ne (h : other ≠ name) : (d.link name e).past other = d.past other :=
  Function.update_of_ne h _ _

/-- A new name stands for the file with the next number. -/
theorem entry_create : (d.create name).entry name = some d.next :=
  entry_link

/-- Creating a file leaves every other name as it is. -/
theorem entry_create_of_ne (h : other ≠ name) : (d.create name).entry other = d.entry other :=
  entry_link_of_ne h

/-- A name that was taken away stands for nothing. -/
@[simp] theorem entry_unlink : (d.unlink name).entry name = none :=
  entry_link

/-- Taking one name away leaves every other as it is. -/
theorem entry_unlink_of_ne (h : other ≠ name) : (d.unlink name).entry other = d.entry other :=
  entry_link_of_ne h

/-- After a renaming the old name stands for nothing. -/
@[simp] theorem entry_rename_source : (d.rename source target).entry source = none :=
  entry_unlink

/-- After a renaming the new name stands for the file of the old one, whatever it stood for
before. -/
theorem entry_rename (h : target ≠ source) :
    (d.rename source target).entry target = d.entry source :=
  (entry_unlink_of_ne h).trans entry_link

/-- A renaming leaves every third name as it is. -/
theorem entry_rename_of_ne (hs : other ≠ source) (ht : other ≠ target) :
    (d.rename source target).entry other = d.entry other :=
  (entry_unlink_of_ne hs).trans (entry_link_of_ne ht)

/-- A name that is given a file that was made keeps the disk sound. -/
theorem Sound.link (h : d.Sound) (he : ∀ i ∈ e, i < d.next) : (d.link name e).Sound := by
  constructor
  · intro other i hi
    by_cases hother : other = name
    · subst hother
      rw [past_link, List.mem_cons] at hi
      obtain hi | hi := hi
      · exact he i hi.symm
      · exact h.made other i hi
    · rw [past_link_of_ne hother] at hi
      exact h.made other i hi
  · intro other
    by_cases hother : other = name
    · subst hother
      rw [entry_link, past_link]
      exact List.mem_cons_self
    · rw [entry_link_of_ne hother, past_link_of_ne hother]
      exact h.current other

/-- Taking a name away keeps the disk sound: standing for nothing needs no file. -/
theorem Sound.unlink (h : d.Sound) : (d.unlink name).Sound :=
  h.link fun _ hi => by cases hi

/-- A renaming keeps the disk sound: the file that changes its name was made. -/
theorem Sound.rename (h : d.Sound) : (d.rename source target).Sound :=
  (h.link fun _ hi => h.lt_next hi).unlink

/-- Creating a file keeps the disk sound: its number is made before the name stands for it. -/
theorem Sound.create (h : d.Sound) : (d.create name).Sound := by
  let more : Disk ν β := { d with next := d.next + 1 }
  have hmore : more.Sound :=
    ⟨fun other i hi => Nat.lt_succ_of_lt (h.made other i hi), h.current⟩
  have hlink : (more.link name (some d.next)).Sound := hmore.link fun i hi => by
    obtain rfl := Option.some.inj hi
    exact Nat.lt_succ_self _
  exact ⟨hlink.made, hlink.current⟩

/-- A new file has the name it was made under. -/
theorem Sound.create_owns (h : d.Sound) : (d.create name).Owns name d.next := by
  refine ⟨entry_create, fun other hother => ?_⟩
  by_contra hne
  have hpast : some d.next ∈ d.past other := past_link_of_ne hne ▸ hother
  exact Nat.lt_irrefl _ (h.made other _ hpast)

/-- Another name is made to stand for another file. -/
theorem Owns.link (h : d.Owns name i) (hne : other ≠ name) (he : e ≠ some i) :
    (d.link other e).Owns name i := by
  refine ⟨(entry_link_of_ne hne.symm).trans h.entry, fun third hthird => ?_⟩
  by_cases hsame : third = other
  · subst hsame
    rw [past_link, List.mem_cons] at hthird
    exact h.alone third (hthird.resolve_left he.symm)
  · rw [past_link_of_ne hsame] at hthird
    exact h.alone third hthird

/-- A name keeps its file to itself while another is taken away. -/
theorem Owns.unlink (h : d.Owns name i) (hne : other ≠ name) : (d.unlink other).Owns name i :=
  h.link hne fun he => by cases he

/-- A name keeps its file to itself while another is created: the new file has a number of
its own. -/
theorem Owns.create (h : d.Owns name i) (hsound : d.Sound) (hne : other ≠ name) :
    (d.create other).Owns name i := by
  have hlink := h.link hne (e := some d.next) fun he =>
    Nat.lt_irrefl _ (Option.some.inj he ▸ hsound.lt_next h.entry)
  exact ⟨hlink.entry, hlink.alone⟩

/-- A name keeps its file to itself while two others are renamed: neither stood for its
file. -/
theorem Owns.rename (h : d.Owns name i) (hsound : d.Sound) (hs : source ≠ name)
    (ht : target ≠ name) : (d.rename source target).Owns name i :=
  (h.link ht (h.entry_ne hsound hs)).unlink hs

/-- A name stays whole while another is given a file. -/
theorem Whole.link (h : d.Whole good name) (hne : name ≠ other) :
    (d.link other e).Whole good name := by
  intro e' he'
  rw [past_link_of_ne hne] at he'
  exact h e' he'

/-- A name stays whole while another is taken away. -/
theorem Whole.unlink (h : d.Whole good name) (hne : name ≠ other) :
    (d.unlink other).Whole good name :=
  h.link hne

/-- A name stays whole while another is created: the new file is none that it may show. -/
theorem Whole.create (h : d.Whole good name) (hsound : d.Sound) (hne : name ≠ other) :
    (d.create other).Whole good name := by
  have hfresh : some d.next ∉ (d.link other (some d.next)).past name := by
    rw [past_link_of_ne hne]
    exact fun hi => Nat.lt_irrefl _ (hsound.made name _ hi)
  exact (h.link hne).write hfresh

/-- A name stays whole while two others are renamed. -/
theorem Whole.rename_of_ne (h : d.Whole good name) (hs : name ≠ source) (ht : name ≠ target) :
    (d.rename source target).Whole good name :=
  (h.link ht).unlink hs

/-- **A synced file is put in the place of another.** -/
theorem Whole.rename (h : d.Whole good target) (hne : target ≠ source)
    (hentry : d.entry source = some i) (hsynced : (d.file i).synced = true)
    (hgood : good (some (d.file i).text)) : (d.rename source target).Whole good target := by
  have hlink : (d.link target (d.entry source)).Whole good target := by
    intro e he
    rw [past_link, List.mem_cons, hentry] at he
    obtain rfl | he := he
    · refine ⟨hgood, fun j hj => ?_⟩
      obtain rfl := Option.some.inj hj
      exact hsynced
    · exact h e he
  exact hlink.unlink hne

end Names

end Disk

end Storage
