import FluidGateway.Lib.KeyedMap

/-!
# Resolving a name through eliminated entries

A log of entries is written one at a time.  An entry that is eliminated stands
for the entry retained in its place together with what its dependencies stand
for; every other name stands for itself.  `resolve` computes this by walking
the log.

A `Table` never walks: it stores for every eliminated entry a flat list,
computed once from the lists already stored.  `Agrees.insert` shows that the
two coincide, whatever the log: chains of eliminated entries, names that are
not seen yet, an entry depending on itself, repetitions.

The last section is about a log with distinct names.  A name that is not
eliminated and that an entry reaches through eliminated entries is among what
its dependencies stand for (`mem_of_chain`); and when no entry depends on
itself or on a later one, nothing else is (`reaches_of_mem`).
-/

namespace Resolution

open KeyedMap

variable {α : Type*} [DecidableEq α]

/-- One logged entry. -/
structure Entry (α : Type*) where
  id : α
  eliminated : Bool
  retained : Option α
  dependencies : List α
  deriving Repr

/-- Some entry of the log has this name and is eliminated. -/
def eliminatedIn (log : List (Entry α)) (x : α) : Bool :=
  log.any fun e => decide (e.id = x) && e.eliminated

/-- What the eliminated entry `x` stands for, by recursion on the log, latest
entry first.  A dependency is followed only into older entries. -/
def resolve : List (Entry α) → α → List α
  | [], _ => []
  | e :: older, x =>
    if e.id = x then
      if e.eliminated then
        e.retained.toList ++ e.dependencies.flatMap fun d =>
          if eliminatedIn older d then resolve older d else [d]
      else []
    else resolve older x

/-- What a name used as a dependency stands for. -/
def standsFor (log : List (Entry α)) (d : α) : List α :=
  if eliminatedIn log d then resolve log d else [d]

/-- For every recorded name: whether it is eliminated, and its stored list. -/
abbrev Table (α : Type*) := α → Option (Bool × List α)

/-- What the table stores in place of a dependency. -/
def expand (table : Table α) (d : α) : List α :=
  match table d with
  | some (true, names) => names
  | _ => [d]

/-- The list stored for an eliminated entry. -/
def flatten (table : Table α) (e : Entry α) : List α :=
  firsts (e.retained.toList ++ e.dependencies.flatMap (expand table))

/-- The table stores exactly the names of the log, and for every eliminated one
what it stands for, each name once. -/
structure Agrees (log : List (Entry α)) (table : Table α) : Prop where
  known : ∀ x, table x = none ↔ ∀ e ∈ log, e.id ≠ x
  eliminated : ∀ {x b names}, table x = some (b, names) → b = eliminatedIn log x
  nodup : ∀ {x names}, table x = some (true, names) → names.Nodup
  names : ∀ {x names}, table x = some (true, names) → ∀ y, y ∈ names ↔ y ∈ resolve log x

theorem eliminatedIn_cons (e : Entry α) (log : List (Entry α)) (x : α) :
    eliminatedIn (e :: log) x = (decide (e.id = x) && e.eliminated || eliminatedIn log x) :=
  rfl

theorem eliminatedIn_eq_false {log : List (Entry α)} {x : α} (h : ∀ e ∈ log, e.id ≠ x) :
    eliminatedIn log x = false := by
  unfold eliminatedIn
  rw [List.any_eq_false]
  intro e he
  simp [h e he]

theorem Agrees.empty : Agrees ([] : List (Entry α)) fun _ => none := by
  constructor <;> simp

/-- An eliminated name is in the table. -/
theorem Agrees.eliminatedIn_iff {log : List (Entry α)} {table : Table α} (h : Agrees log table)
    {x : α} : eliminatedIn log x = true ↔ ∃ names, table x = some (true, names) := by
  constructor
  · intro hx
    cases ht : table x with
    | none =>
        rw [eliminatedIn_eq_false ((h.known x).mp ht)] at hx
        cases hx
    | some entry =>
        obtain ⟨b, names⟩ := entry
        obtain rfl : b = true := (h.eliminated ht).trans hx
        exact ⟨names, rfl⟩
  · intro hx
    obtain ⟨names, ht⟩ := hx
    exact (h.eliminated ht).symm

/-- One dependency: the stored list has the names of the walk. -/
theorem Agrees.mem_expand {log : List (Entry α)} {table : Table α} (h : Agrees log table)
    (d y : α) : y ∈ expand table d ↔ y ∈ standsFor log d := by
  unfold standsFor
  by_cases hd : eliminatedIn log d = true
  · obtain ⟨names, ht⟩ := h.eliminatedIn_iff.mp hd
    rw [if_pos hd, ← h.names ht y]
    simp [expand, ht]
  · rw [if_neg hd]
    have hplain : expand table d = [d] := by
      unfold expand
      split
      · rename_i names ht
        exact absurd (h.eliminatedIn_iff.mpr ⟨names, ht⟩) hd
      · rfl
    rw [hplain]

/-- The flat list of a new entry has the names the entry stands for. -/
theorem Agrees.mem_flatten {log : List (Entry α)} {table : Table α} (h : Agrees log table)
    (e : Entry α) (y : α) :
    y ∈ flatten table e ↔
      y ∈ e.retained.toList ++ e.dependencies.flatMap (standsFor log) := by
  unfold flatten
  rw [mem_firsts, List.mem_append, List.mem_append, List.mem_flatMap, List.mem_flatMap]
  simp only [h.mem_expand]

/-- **Storing flattened lists keeps the table in agreement with the log.** -/
theorem Agrees.insert {log : List (Entry α)} {table : Table α} (h : Agrees log table)
    (e : Entry α) (hfresh : table e.id = none) {names : List α}
    (hnames : e.eliminated = true → names = flatten table e) :
    Agrees (e :: log) (Function.update table e.id (some (e.eliminated, names))) := by
  have hnew : ∀ d ∈ log, d.id ≠ e.id := (h.known e.id).mp hfresh
  have holder : ∀ x, x ≠ e.id → eliminatedIn (e :: log) x = eliminatedIn log x := by
    intro x hx
    rw [eliminatedIn_cons]
    simp [Ne.symm hx]
  refine ⟨?_, ?_, ?_, ?_⟩
  · intro x
    by_cases hx : x = e.id
    · subst hx
      simp
    · rw [Function.update_of_ne hx, h.known x]
      simp [Ne.symm hx]
  · intro x b l hxl
    by_cases hx : x = e.id
    · subst hx
      rw [Function.update_self, Option.some.injEq, Prod.mk.injEq] at hxl
      rw [eliminatedIn_cons, eliminatedIn_eq_false hnew]
      simp [hxl.1]
    · rw [Function.update_of_ne hx] at hxl
      rw [holder x hx]
      exact h.eliminated hxl
  · intro x l hxl
    by_cases hx : x = e.id
    · subst hx
      rw [Function.update_self, Option.some.injEq, Prod.mk.injEq] at hxl
      obtain ⟨helim, rfl⟩ := hxl
      rw [hnames helim]
      exact nodup_firsts _
    · rw [Function.update_of_ne hx] at hxl
      exact h.nodup hxl
  · intro x l hxl y
    by_cases hx : x = e.id
    · subst hx
      rw [Function.update_self, Option.some.injEq, Prod.mk.injEq] at hxl
      obtain ⟨helim, rfl⟩ := hxl
      rw [hnames helim, h.mem_flatten]
      simp only [resolve, if_true, helim]
      rfl
    · rw [Function.update_of_ne hx] at hxl
      simp only [resolve, if_neg (Ne.symm hx)]
      exact h.names hxl y

/-- An eliminated entry that stands for nothing is one whose stored list is
empty. -/
theorem Agrees.resolve_eq_nil_iff {log : List (Entry α)} {table : Table α} (h : Agrees log table)
    {x : α} {names : List α} (ht : table x = some (true, names)) :
    resolve log x = [] ↔ names = [] := by
  simp only [List.eq_nil_iff_forall_not_mem, h.names ht]

/-! ## Chains through eliminated entries -/

section Chains

variable {log newer older : List (Entry α)} {e : Entry α}

/-- The entry `x` depends on `d`, and `d` was logged before it. -/
def Link (log : List (Entry α)) (x d : α) : Prop :=
  ∃ newer e older, log = newer ++ e :: older ∧ e.id = x ∧ d ∈ e.dependencies ∧
    ∃ p ∈ older, p.id = d

/-- From `x` to `y` by links, all entries in between being eliminated. -/
inductive Chain (log : List (Entry α)) : α → α → Prop
  | last {x y : α} (h : Link log x y) : Chain log x y
  | through {x d y : α} (h : Link log x d) (gone : eliminatedIn log d = true)
      (rest : Chain log d y) : Chain log x y

/-- From `x` to `y` as in a chain, where the end may also be a name that was
never logged, or the entry retained in place of an eliminated one. -/
inductive Reaches (log : List (Entry α)) : α → α → Prop
  | last {x y : α} (h : Link log x y) : Reaches log x y
  | unknown {x y : α} (h : ∃ e ∈ log, e.id = x ∧ y ∈ e.dependencies) (free : ∀ e ∈ log, e.id ≠ y) :
      Reaches log x y
  | retained {x y : α} (h : ∃ e ∈ log, e.id = x ∧ e.eliminated = true ∧ e.retained = some y) :
      Reaches log x y
  | through {x d y : α} (h : Link log x d) (gone : eliminatedIn log d = true)
      (rest : Reaches log d y) : Reaches log x y

theorem eliminatedIn_iff {x : α} :
    eliminatedIn log x = true ↔ ∃ d ∈ log, d.id = x ∧ d.eliminated = true := by
  simp [eliminatedIn]

theorem resolve_skip {x : α} (h : ∀ d ∈ newer, d.id ≠ x) (rest : List (Entry α)) :
    resolve (newer ++ rest) x = resolve rest x := by
  induction newer with
  | nil => rfl
  | cons d newer ih =>
      rw [List.cons_append, resolve, if_neg (h d List.mem_cons_self)]
      exact ih fun q hq => h q (List.mem_cons_of_mem _ hq)

omit [DecidableEq α] in
/-- Distinct names: nothing newer or older has the name of `e`. -/
theorem id_ne_of_nodup (hnodup : ((newer ++ e :: older).map Entry.id).Nodup) :
    (∀ d ∈ newer, d.id ≠ e.id) ∧ ∀ d ∈ older, d.id ≠ e.id := by
  rw [List.map_append, List.map_cons, List.nodup_append, List.nodup_cons] at hnodup
  obtain ⟨-, ⟨hold, -⟩, hnew⟩ := hnodup
  refine ⟨?_, ?_⟩
  · intro d hd
    exact hnew _ (List.mem_map_of_mem hd) _ List.mem_cons_self
  · intro d hd heq
    exact hold (heq ▸ List.mem_map_of_mem hd)

omit [DecidableEq α] in
theorem nodup_older (hnodup : ((newer ++ e :: older).map Entry.id).Nodup) :
    (older.map Entry.id).Nodup := by
  rw [List.map_append, List.map_cons, List.nodup_append, List.nodup_cons] at hnodup
  exact hnodup.2.1.2

/-- What the eliminated entry `e` of a log with distinct names stands for. -/
theorem resolve_of_split (hnodup : ((newer ++ e :: older).map Entry.id).Nodup)
    (helim : e.eliminated = true) :
    resolve (newer ++ e :: older) e.id =
      e.retained.toList ++ e.dependencies.flatMap (standsFor older) := by
  rw [resolve_skip (id_ne_of_nodup hnodup).1, resolve, if_pos rfl, if_pos helim]
  rfl

omit [DecidableEq α] in
/-- Two splits at entries of the same name are the same split. -/
theorem split_unique {newer' older' : List (Entry α)} {e' : Entry α}
    (hnodup : ((newer ++ e :: older).map Entry.id).Nodup)
    (hlog : newer ++ e :: older = newer' ++ e' :: older') (hid : e'.id = e.id) :
    newer' = newer ∧ e' = e ∧ older' = older := by
  induction newer generalizing newer' with
  | nil =>
      cases newer' with
      | nil =>
          rw [List.nil_append, List.nil_append, List.cons.injEq] at hlog
          exact ⟨rfl, hlog.1.symm, hlog.2.symm⟩
      | cons d newer' =>
          rw [List.nil_append, List.cons_append, List.cons.injEq] at hlog
          have hmem : e' ∈ older := by rw [hlog.2]; simp
          exact absurd hid ((id_ne_of_nodup hnodup).2 e' hmem)
  | cons d newer ih =>
      cases newer' with
      | nil =>
          rw [List.nil_append, List.cons_append, List.cons.injEq] at hlog
          exact absurd (hlog.1 ▸ hid) ((id_ne_of_nodup hnodup).1 d List.mem_cons_self)
      | cons d' newer' =>
          rw [List.cons_append, List.cons_append, List.cons.injEq] at hlog
          rw [List.cons_append, List.map_cons, List.nodup_cons] at hnodup
          obtain ⟨hnew, he, hold⟩ := ih hnodup.2 hlog.2
          exact ⟨by rw [hlog.1, hnew], he, hold⟩

/-- **No ordering edge is lost.**  A name that is not eliminated and that the
entry reaches by a chain is among what its dependencies stand for. -/
theorem mem_of_chain (hnodup : (log.map Entry.id).Nodup) {x y : α} (hchain : Chain log x y)
    (hy : eliminatedIn log y = false) (hlog : log = newer ++ e :: older) (hx : e.id = x) :
    y ∈ e.dependencies.flatMap (standsFor older) := by
  induction hchain generalizing newer e older with
  | @last x y h =>
      obtain ⟨newer', e', older', hsplit, hid, hdep, -⟩ := h
      rw [hlog] at hnodup hsplit
      obtain ⟨-, rfl, rfl⟩ := split_unique hnodup hsplit (hid.trans hx.symm)
      refine List.mem_flatMap.mpr ⟨_, hdep, ?_⟩
      have hlive : ¬ eliminatedIn older' y = true := by
        intro helim
        obtain ⟨d, hd, hdy, hgone⟩ := eliminatedIn_iff.mp helim
        have hbad := eliminatedIn_iff.mpr
          ⟨d, hlog ▸ List.mem_append_right _ (List.mem_cons_of_mem _ hd), hdy, hgone⟩
        rw [hy] at hbad
        cases hbad
      rw [standsFor, if_neg hlive]
      exact List.mem_singleton_self _
  | @through x d y h gone rest ih =>
      obtain ⟨newer', e', older', hsplit, hid, hdep, p, hp, rfl⟩ := h
      have hnodup' := hnodup
      rw [hlog] at hnodup' hsplit
      obtain ⟨rfl, rfl, rfl⟩ := split_unique hnodup' hsplit (hid.trans hx.symm)
      obtain ⟨n, o, rfl⟩ := List.append_of_mem hp
      -- the entry in between is the one that the links name, and it is eliminated
      have hlog' : log = (newer' ++ e' :: n) ++ p :: o := by rw [hlog]; simp
      have hpgone : p.eliminated = true := by
        obtain ⟨q, hq, hqp, hqgone⟩ := eliminatedIn_iff.mp gone
        rw [hlog'] at hq hnodup
        have hne := id_ne_of_nodup hnodup
        rcases List.mem_append.mp hq with hq | hq
        · exact absurd hqp (hne.1 q hq)
        · rcases List.mem_cons.mp hq with rfl | hq
          · exact hqgone
          · exact absurd hqp (hne.2 q hq)
      have hmem := ih hy hlog' rfl
      have holder := nodup_older hnodup'
      refine List.mem_flatMap.mpr ⟨p.id, hdep, ?_⟩
      rw [standsFor, if_pos (eliminatedIn_iff.mpr ⟨p, hp, rfl, hpgone⟩),
        resolve_of_split holder hpgone]
      exact List.mem_append_right _ hmem

/-- **No ordering edge is invented.**  When no entry depends on itself or on a
newer one, and what is retained is not eliminated, everything the dependencies
of an entry stand for is not eliminated and is reached by a chain. -/
theorem reaches_of_mem (hnodup : (log.map Entry.id).Nodup)
    (hearlier : ∀ newer e older, log = newer ++ e :: older →
      ∀ d ∈ e.dependencies, d ≠ e.id ∧ ∀ q ∈ newer, q.id ≠ d)
    (hretained : ∀ e ∈ log, ∀ r, e.retained = some r → eliminatedIn log r = false)
    {y : α} (hlog : log = newer ++ e :: older)
    (hy : y ∈ e.dependencies.flatMap (standsFor older)) :
    eliminatedIn log y = false ∧ Reaches log e.id y := by
  induction hn : older.length using Nat.strong_induction_on generalizing newer e older with
  | _ n ih =>
      obtain ⟨d, hd, hyd⟩ := List.mem_flatMap.mp hy
      obtain ⟨hself, hnewer⟩ := hearlier _ _ _ hlog d hd
      by_cases hgone : eliminatedIn older d = true
      · obtain ⟨p, hp, rfl, hpgone⟩ := eliminatedIn_iff.mp hgone
        obtain ⟨between, oldest, rfl⟩ := List.append_of_mem hp
        have hnodup' := hnodup
        rw [hlog] at hnodup'
        have holder := nodup_older hnodup'
        have hlog' : log = (newer ++ e :: between) ++ p :: oldest := by rw [hlog]; simp
        have hplog : p ∈ log := by rw [hlog']; simp
        have hlink : Link log e.id p.id := ⟨newer, e, _, hlog, rfl, hd, p, hp, rfl⟩
        have hall : eliminatedIn log p.id = true :=
          eliminatedIn_iff.mpr ⟨p, hplog, rfl, hpgone⟩
        rw [standsFor, if_pos hgone, resolve_of_split holder hpgone] at hyd
        rcases List.mem_append.mp hyd with hr | hr
        · have hretainedAs : p.retained = some y := by simpa using hr
          exact ⟨hretained p hplog y hretainedAs,
            .through hlink hall (.retained ⟨p, hplog, rfl, hpgone, hretainedAs⟩)⟩
        · have hshort : oldest.length < n := by
            rw [← hn, List.length_append, List.length_cons]
            omega
          obtain ⟨hlive, hreach⟩ := ih _ hshort hlog' hr rfl
          exact ⟨hlive, .through hlink hall hreach⟩
      · rw [standsFor, if_neg hgone, List.mem_singleton] at hyd
        subst hyd
        have hlive : eliminatedIn log y = false := by
          rw [← Bool.not_eq_true]
          intro hbad
          obtain ⟨q, hq, rfl, hqgone⟩ := eliminatedIn_iff.mp hbad
          rw [hlog] at hq
          rcases List.mem_append.mp hq with hq | hq
          · exact hnewer q hq rfl
          · rcases List.mem_cons.mp hq with rfl | hq
            · exact hself rfl
            · exact hgone (eliminatedIn_iff.mpr ⟨q, hq, rfl, hqgone⟩)
        refine ⟨hlive, ?_⟩
        by_cases hknown : ∃ p ∈ older, p.id = y
        · exact .last ⟨newer, e, older, hlog, rfl, hd, hknown⟩
        · refine .unknown ⟨e, by rw [hlog]; simp, rfl, hd⟩ ?_
          intro q hq heq
          rw [hlog] at hq
          rcases List.mem_append.mp hq with hq | hq
          · exact hnewer q hq heq
          · rcases List.mem_cons.mp hq with rfl | hq
            · exact hself heq.symm
            · exact hknown ⟨q, hq, heq⟩

end Chains

end Resolution
