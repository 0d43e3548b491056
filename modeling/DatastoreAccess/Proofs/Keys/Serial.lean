import Mathlib
import DatastoreAccess.Proofs.Keys.Trace
/-!
# Proofs.Keys.Serial — lookups side by side are lookups one after the other

At one instant of the clock, lookups that run side by side answer as they would one after the other, and they leave the
same cache, the same last attempt and the same number of requests (`lookups_serializable`).

A lookup takes effect at one step: when it reads its answer off the cache, when its fetch fails, or when its fetch fills
the cache.  The state in which the lookups that took effect leave a resolver is the base of a world.  What the tasks
share is the base, but for an attempt that the holder of the lock has noted and not yet finished (`Held`, `Locked`); a
look at the cache does not see that attempt.  So a step leaves the base as it is, or it is one more lookup on the base
(`Advance`, `Locked.next`), and the order in which lookups take effect is the order to run them in (`Served`).
-/
namespace DatastoreAccess

/-! ## One lookup while the clock stands still -/

namespace Resolver

open Interleaving (answerOf)

variable {r : Resolver} {endpoint : Nat → KeyEndpoint.Response} {now : Nat} {id : String} {s : State}

theorem keyFor_still_of_fresh {k : SigningKey} (found : s.cache.fresh? r.lifetime now id = some k) :
    r.keyFor endpoint (.still now) id s = (.ok k, s) := by
  simp only [keyFor, Moments.still, found]

theorem keyFor_still_of_floor (missed : s.cache.fresh? r.lifetime now id = none)
    (active : s.cache.floorActive r.refreshFloor now = true) :
    r.keyFor endpoint (.still now) id s = (answerOf id (s.cache.stale? id), s) := by
  simp only [keyFor, Moments.still, missed, active, if_true, answerOf]

theorem keyFor_still_of_fetch (missed : s.cache.fresh? r.lifetime now id = none)
    (idle : s.cache.floorActive r.refreshFloor now = false) :
    r.keyFor endpoint (.still now) id s = fetch (.still now) (endpoint s.requests) id s := by
  simp only [keyFor, Moments.still, missed, idle, Bool.false_eq_true, if_false]

/-- Since `start` there was no request, or there was one and its attempt is in mind. -/
def AskedOnce (start : State) (now : Nat) (s : State) : Prop :=
  s.requests = start.requests ∨ s.requests = start.requests + 1 ∧ s.cache.lastFetch = some now

/-- With a floor, an attempt at this instant rules out another one. -/
theorem AskedOnce.requests_eq {start : State} (h : AskedOnce start now s) (hf : 0 < r.refreshFloor)
    (idle : s.cache.floorActive r.refreshFloor now = false) : s.requests = start.requests := by
  rcases h with h | ⟨-, hlast⟩
  · exact h
  · rw [KeyCache.floorActive, hlast] at idle
    simp [hf] at idle

theorem AskedOnce.keyFor {start : State} (h : AskedOnce start now s) (hf : 0 < r.refreshFloor) (id : String) :
    AskedOnce start now (r.keyFor endpoint (.still now) id s).2 := by
  obtain ⟨request?, look⟩ := keyFor_lookup r endpoint (.still now) id s
  generalize (r.keyFor endpoint (.still now) id s).1 = a at look
  generalize (r.keyFor endpoint (.still now) id s).2 = s' at look ⊢
  cases look with
  | fresh look found => exact h
  | floored missed active => exact h
  | failed missed idle failure => exact .inr ⟨congrArg (· + 1) (h.requests_eq hf idle), rfl⟩
  | filled missed idle success => exact .inr ⟨congrArg (· + 1) (h.requests_eq hf idle), rfl⟩

end Resolver

namespace Interleaving

open KeyEndpoint (Response)
open Resolver (State Moments AskedOnce)

/-! ## Tasks -/

/-- The lookup holds the lock. -/
def LookupStage.Inside : LookupStage → Prop
  | .rechecking | .deciding | .asking _ | .filling _ | .leaving _ => True
  | .starting | .waiting | .done _ => False

/-- The answer of a lookup that took effect. -/
def LookupStage.settled? : LookupStage → Option (Except KeyFailure SigningKey)
  | .leaving a | .done a => some a
  | _ => none

/-- A bound on the steps that a lookup still makes. -/
def LookupStage.remaining : LookupStage → Nat
  | .starting => 7
  | .waiting => 6
  | .rechecking => 5
  | .deciding => 4
  | .asking _ => 3
  | .filling _ => 2
  | .leaving _ => 1
  | .done _ => 0

namespace Task

def id? : Task → Option String
  | .lookup id _ => some id
  | .clearing _ => none

def settled? : Task → Option (Except KeyFailure SigningKey)
  | .lookup _ stage => stage.settled?
  | .clearing _ => none

def remaining : Task → Nat
  | .lookup _ stage => stage.remaining
  | .clearing _ => 0

theorem settled?_of_isDone {t : Task} (h : t.isDone = true) : t.settled? = t.answer? := by
  cases t with
  | lookup id stage => cases stage <;> first | rfl | cases h
  | clearing stage => rfl

theorem isSome_settled?_of_isDone {t : Task} (h : t.isDone = true) {id : String} (hid : t.id? = some id) :
    t.settled?.isSome = true := by
  cases t with
  | lookup id stage => cases stage <;> first | rfl | cases h
  | clearing stage => cases hid

end Task

namespace World

/-- The tasks are lookups, one for each id. -/
def LooksUp (w : World) (ids : List String) : Prop := w.tasks.map Task.id? = ids.map some

def settled? (w : World) (i : Nat) : Option (Except KeyFailure SigningKey) := w.tasks[i]?.bind Task.settled?

/-- What a task has answered, as a call reports it. -/
def answer (w : World) (i : Nat) : Resolver.Answer := (w.tasks[i]?.bind Task.answer?).bind Resolver.reported

def remaining (w : World) : Nat := (w.tasks.map Task.remaining).sum

end World

/-- The lookups of some tasks as calls one after the other. -/
def calls (ids : List String) (now : Nat) (order : List (Fin ids.length)) : List Resolver.Call :=
  order.map fun i => ⟨.keyFor ids[i], .still now⟩

/-! ## Who holds the lock -/

variable {r : Resolver} {endpoint : Nat → Response} {now : Nat} {base base' : State} {w : World} {i : Nat}
  {id : String} {stage stage' : LookupStage} {s s' : Shared}

/-- Where the holder of the lock stands, and what the tasks then share. -/
inductive Held (r : Resolver) (endpoint : Nat → Response) (now : Nat) (base : State) (id : String) :
    LookupStage → State → Prop where
  | rechecking : Held r endpoint now base id .rechecking base
  | deciding (missed : base.cache.fresh? r.lifetime now id = none) : Held r endpoint now base id .deciding base
  | asking (missed : base.cache.fresh? r.lifetime now id = none)
      (idle : base.cache.floorActive r.refreshFloor now = false) :
      Held r endpoint now base id (.asking base.requests) ⟨base.cache.noteFetch now, base.requests + 1⟩
  | filling {keys : List SigningKey} (missed : base.cache.fresh? r.lifetime now id = none)
      (idle : base.cache.floorActive r.refreshFloor now = false)
      (brought : (endpoint base.requests).keys = .ok keys) :
      Held r endpoint now base id (.filling keys) ⟨base.cache.noteFetch now, base.requests + 1⟩
  | leaving (a : Except KeyFailure SigningKey) : Held r endpoint now base id (.leaving a) base

/-- The holder of the lock is the one task inside, and it alone sets what is shared off the base. -/
structure Locked (r : Resolver) (endpoint : Nat → Response) (now : Nat) (base : State) (w : World) : Prop where
  inside : ∀ i id stage, w.tasks[i]? = some (.lookup id stage) → (stage.Inside ↔ w.shared.holder = some i)
  free : w.shared.holder = none → w.shared.state = base
  held : ∀ i, w.shared.holder = some i →
    ∃ id stage, w.tasks[i]? = some (.lookup id stage) ∧ Held r endpoint now base id stage w.shared.state

theorem Held.entries_eq {state : State} (h : Held r endpoint now base id stage state) :
    state.cache.entries = base.cache.entries := by
  cases h <;> rfl

theorem Locked.fresh?_eq (h : Locked r endpoint now base w) (id : String) :
    w.shared.cache.fresh? r.lifetime now id = base.cache.fresh? r.lifetime now id := by
  have he : w.shared.state.cache.entries = base.cache.entries := by
    cases hh : w.shared.holder with
    | none => rw [h.free hh]
    | some i =>
      obtain ⟨id, stage, -, hheld⟩ := h.held i hh
      exact hheld.entries_eq
  simp only [Shared.cache, KeyCache.fresh?, KeyCache.held?, he]

/-- One task moves: what is shared may change through its holder only. -/
theorem Locked.set (h : Locked r endpoint now base w) (ht : w.tasks[i]? = some (.lookup id stage))
    (inside : stage'.Inside ↔ s'.holder = some i)
    (others : ∀ j, j ≠ i → (s'.holder = some j ↔ w.shared.holder = some j))
    (free : s'.holder = none → s'.state = base')
    (mine : s'.holder = some i → Held r endpoint now base' id stage' s'.state)
    (theirs : ∀ j, j ≠ i → s'.holder = some j → base' = base ∧ s'.state = w.shared.state) :
    Locked r endpoint now base' ⟨s', w.tasks.set i (.lookup id stage')⟩ := by
  have hi : i < w.tasks.length := (List.getElem?_eq_some_iff.1 ht).1
  refine ⟨fun j id' stage'' hj => ?_, free, fun j hj => ?_⟩
  · by_cases hji : j = i
    · subst hji
      rw [List.getElem?_set_self hi] at hj
      cases hj
      exact inside
    · rw [List.getElem?_set_ne (Ne.symm hji)] at hj
      exact (h.inside j id' stage'' hj).trans (others j hji).symm
  · by_cases hji : j = i
    · subst hji
      exact ⟨id, stage', List.getElem?_set_self hi, mine hj⟩
    · obtain ⟨id', stage'', hj', hheld⟩ := h.held j ((others j hji).1 hj)
      obtain ⟨rfl, hs⟩ := theirs j hji hj
      refine ⟨id', stage'', (List.getElem?_set_ne (Ne.symm hji)).trans hj', ?_⟩
      rw [hs]
      exact hheld

/-! ## Steps -/

/-- What the holder of the lock does next: it goes on, it takes effect, or it leaves. -/
theorem Held.step (h : Held r endpoint now base id stage s.state)
    (hm : lookupStep r endpoint now i id s stage = some (stage', s')) :
    (s'.holder = s.holder ∧ stage'.Inside ∧ stage.settled? = none ∧
      ((stage'.settled? = none ∧ Held r endpoint now base id stage' s'.state) ∨
        ∃ a, stage' = .leaving a ∧ r.keyFor endpoint (.still now) id base = (a, s'.state))) ∨
    ∃ a, stage = .leaving a ∧ stage' = .done a ∧ s' = s.release ∧ s.state = base := by
  generalize hs : s.state = state at h
  cases h with
  | rechecking =>
    left
    simp only [lookupStep, Shared.cache, hs] at hm
    split at hm
    · rename_i k hk
      cases hm
      exact ⟨rfl, trivial, rfl, .inr ⟨_, rfl, by rw [hs, Resolver.keyFor_still_of_fresh hk]⟩⟩
    · rename_i hmissed
      cases hm
      exact ⟨rfl, trivial, rfl, .inl ⟨rfl, by rw [hs]; exact .deciding hmissed⟩⟩
  | deciding missed =>
    left
    simp only [lookupStep, Shared.cache, hs] at hm
    split at hm
    · rename_i hactive
      cases hm
      exact ⟨rfl, trivial, rfl, .inr ⟨_, rfl, by rw [hs, Resolver.keyFor_still_of_floor missed hactive]⟩⟩
    · rename_i hidle
      cases hm
      exact ⟨rfl, trivial, rfl, .inl ⟨rfl, .asking missed (by simpa using hidle)⟩⟩
  | asking missed idle =>
    left
    simp only [lookupStep] at hm
    split at hm
    · rename_i keys hkeys
      cases hm
      exact ⟨rfl, trivial, rfl, .inl ⟨rfl, by rw [hs]; exact .filling missed idle hkeys⟩⟩
    · rename_i e he
      cases hm
      refine ⟨rfl, trivial, rfl, .inr ⟨_, rfl, ?_⟩⟩
      rw [hs, Resolver.keyFor_still_of_fetch missed idle, Resolver.fetch, he]
      rfl
  | filling missed idle brought =>
    left
    simp only [lookupStep] at hm
    cases hm
    refine ⟨rfl, trivial, rfl, .inr ⟨_, rfl, ?_⟩⟩
    rw [Resolver.keyFor_still_of_fetch missed idle, Resolver.fetch, brought]
    simp only [Shared.withCache, Shared.cache, hs]
    rfl
  | leaving a =>
    simp only [lookupStep] at hm
    cases hm
    exact .inr ⟨a, rfl, rfl, rfl, rfl⟩

/-- What a step of a world does to its base: nothing, or one more lookup. -/
inductive Advance (r : Resolver) (endpoint : Nat → Response) (now : Nat) (w w' : World) (base : State) :
    State → Prop where
  | quiet (same : ∀ j, w'.settled? j = w.settled? j) : Advance r endpoint now w w' base base
  | settles {i : Nat} {id : String} {a : Except KeyFailure SigningKey} {base' : State}
      (task : w.tasks[i]?.bind Task.id? = some id) (new : w.settled? i = none) (settled : w'.settled? i = some a)
      (others : ∀ j, j ≠ i → w'.settled? j = w.settled? j)
      (serial : r.keyFor endpoint (.still now) id base = (a, base')) : Advance r endpoint now w w' base base'

theorem settled?_set_self (ht : w.tasks[i]? = some (.lookup id stage)) :
    World.settled? ⟨s', w.tasks.set i (.lookup id stage')⟩ i = stage'.settled? := by
  have hi : i < w.tasks.length := (List.getElem?_eq_some_iff.1 ht).1
  simp only [World.settled?, List.getElem?_set_self hi]
  rfl

theorem settled?_set_ne {t : Task} {j : Nat} (hj : j ≠ i) :
    World.settled? ⟨s', w.tasks.set i t⟩ j = w.settled? j := by
  simp only [World.settled?, List.getElem?_set_ne (Ne.symm hj)]

theorem settled?_of_task (ht : w.tasks[i]? = some (.lookup id stage)) : w.settled? i = stage.settled? := by
  rw [World.settled?, ht]
  rfl

theorem Advance.of_quiet (ht : w.tasks[i]? = some (.lookup id stage)) (hs : stage'.settled? = stage.settled?) :
    Advance r endpoint now w ⟨s', w.tasks.set i (.lookup id stage')⟩ base base := by
  refine .quiet fun j => ?_
  by_cases hj : j = i
  · subst hj
    rw [settled?_set_self ht, settled?_of_task ht, hs]
  · exact settled?_set_ne hj

theorem Advance.of_settled {a : Except KeyFailure SigningKey} (ht : w.tasks[i]? = some (.lookup id stage))
    (new : stage.settled? = none) (settled : stage'.settled? = some a)
    (serial : r.keyFor endpoint (.still now) id base = (a, base')) :
    Advance r endpoint now w ⟨s', w.tasks.set i (.lookup id stage')⟩ base base' := by
  refine Advance.settles (i := i) ?_ ?_ ?_ (fun j hj => settled?_set_ne hj) serial
  · rw [ht]
    rfl
  · rw [settled?_of_task ht, new]
  · rw [settled?_set_self ht, settled]

theorem Locked.move_inside (h : Locked r endpoint now base w) (ht : w.tasks[i]? = some (.lookup id stage))
    (hin : stage.Inside) (hm : lookupStep r endpoint now i id w.shared stage = some (stage', s')) :
    ∃ base', Locked r endpoint now base' ⟨s', w.tasks.set i (.lookup id stage')⟩ ∧
      Advance r endpoint now w ⟨s', w.tasks.set i (.lookup id stage')⟩ base base' := by
  have hh : w.shared.holder = some i := (h.inside i id stage ht).1 hin
  have hother (j : Nat) (hj : j ≠ i) : w.shared.holder ≠ some j := by
    rw [hh]
    exact fun he => hj (Option.some.inj he).symm
  obtain ⟨id', stage'', ht', hheld⟩ := h.held i hh
  cases ht.symm.trans ht'
  -- It goes on with the base as it was, it takes effect and moves the base, or it gives the lock back.
  rcases hheld.step hm with ⟨hholder, hin', hnew, hgo | ⟨a, rfl, hserial⟩⟩ | ⟨a, rfl, rfl, rfl, hbase⟩
  · refine ⟨base, h.set ht ?_ ?_ ?_ (fun _ => hgo.2) ?_, .of_quiet ht (hgo.1.trans hnew.symm)⟩
    · simp [hholder, hh, hin']
    · simp [hholder]
    · simp [hholder, hh]
    · intro j hj hs
      exact absurd (hholder ▸ hs) (hother j hj)
  · refine ⟨s'.state, h.set ht ?_ ?_ (fun _ => rfl) (fun _ => .leaving a) ?_, .of_settled ht hnew rfl hserial⟩
    · simp [hholder, hh, hin']
    · simp [hholder]
    · intro j hj hs
      exact absurd (hholder ▸ hs) (hother j hj)
  · refine ⟨base, h.set ht ?_ ?_ (fun _ => hbase) ?_ ?_, .of_quiet ht rfl⟩
    · simp [LookupStage.Inside, Shared.release]
    · intro j hj
      simp [Shared.release, hother j hj]
    · simp [Shared.release]
    · simp [Shared.release]

theorem Locked.move_outside (h : Locked r endpoint now base w) (ht : w.tasks[i]? = some (.lookup id stage))
    (hout : ¬ stage.Inside) (hm : lookupStep r endpoint now i id w.shared stage = some (stage', s')) :
    ∃ base', Locked r endpoint now base' ⟨s', w.tasks.set i (.lookup id stage')⟩ ∧
      Advance r endpoint now w ⟨s', w.tasks.set i (.lookup id stage')⟩ base base' := by
  have hh : w.shared.holder ≠ some i := fun he => hout ((h.inside i id stage ht).2 he)
  -- A task that stays outside leaves what is shared as it is.
  have hstay (stage' : LookupStage) (hout' : ¬ stage'.Inside) :
      Locked r endpoint now base ⟨w.shared, w.tasks.set i (.lookup id stage')⟩ :=
    h.set ht (iff_of_false hout' hh) (fun _ _ => Iff.rfl) h.free (fun he => absurd he hh) (fun _ _ _ => ⟨rfl, rfl⟩)
  cases stage with
  | starting =>
    simp only [lookupStep] at hm
    split at hm
    · rename_i k hk
      cases hm
      -- A fetch may be under way: the keys seen are those of the base, so the lookup counts as one before the fetch.
      rw [h.fresh?_eq] at hk
      exact ⟨base, hstay _ (fun hin => hin), .of_settled ht rfl rfl (Resolver.keyFor_still_of_fresh hk)⟩
    · cases hm
      exact ⟨base, hstay _ (fun hin => hin), .of_quiet ht rfl⟩
  | waiting =>
    obtain ⟨s, hlock, hm⟩ := Option.map_eq_some_iff.1 hm
    cases hm
    unfold Shared.lock? at hlock
    split at hlock
    · rename_i hfree
      cases hlock
      refine ⟨base, h.set ht ?_ ?_ ?_ ?_ ?_, .of_quiet ht rfl⟩
      · simp [LookupStage.Inside]
      · intro j hj
        simp [hfree, Ne.symm hj]
      · simp
      · intro _
        rw [h.free hfree]
        exact .rechecking
      · intro j hj he
        exact absurd (Option.some.inj he).symm hj
    · cases hlock
  | done a => cases hm
  | rechecking => exact absurd trivial hout
  | deciding => exact absurd trivial hout
  | asking request => exact absurd trivial hout
  | filling keys => exact absurd trivial hout
  | leaving a => exact absurd trivial hout

theorem World.LooksUp.getElem?_eq {ids : List String} (h : w.LooksUp ids) (i : Nat) :
    w.tasks[i]?.map Task.id? = ids[i]?.map some := by
  rw [← List.getElem?_map, ← List.getElem?_map, h]

theorem World.LooksUp.id?_eq {ids : List String} (h : w.LooksUp ids) (i : Nat) :
    w.tasks[i]?.bind Task.id? = ids[i]? := by
  have hi := h.getElem?_eq i
  cases ht : w.tasks[i]? <;> cases hid : ids[i]? <;> simp_all

theorem World.LooksUp.lookup {ids : List String} (h : w.LooksUp ids) {t : Task} (ht : w.tasks[i]? = some t) :
    ∃ id stage, t = .lookup id stage := by
  cases t with
  | lookup id stage => exact ⟨id, stage, rfl⟩
  | clearing stage =>
    have hi := h.getElem?_eq i
    rw [ht] at hi
    cases hid : ids[i]? <;> rw [hid] at hi <;> cases hi

theorem World.LooksUp.set {ids : List String} (h : w.LooksUp ids) (ht : w.tasks[i]? = some (.lookup id stage)) :
    World.LooksUp ⟨s', w.tasks.set i (.lookup id stage')⟩ ids := by
  obtain ⟨hlt, hget⟩ := List.getElem?_eq_some_iff.1 ht
  have hi : i < (w.tasks.map Task.id?).length := by simpa using hlt
  have hid : Task.id? (.lookup id stage') = (w.tasks.map Task.id?)[i] := by
    rw [List.getElem_map, hget]
    rfl
  rw [World.LooksUp, List.map_set, hid, List.set_getElem_self]
  exact h

/-- A step of a world of lookups: nothing moves, or one lookup does. -/
theorem World.LooksUp.step_cases {ids : List String} (h : w.LooksUp ids) (r : Resolver) (endpoint : Nat → Response)
    (now i : Nat) :
    step r endpoint now i w = w ∨
      ∃ id stage stage' s', w.tasks[i]? = some (.lookup id stage) ∧
        lookupStep r endpoint now i id w.shared stage = some (stage', s') ∧
        step r endpoint now i w = ⟨s', w.tasks.set i (.lookup id stage')⟩ := by
  cases ht : w.tasks[i]? with
  | none => exact .inl (by rw [step, ht])
  | some t =>
    obtain ⟨id, stage, rfl⟩ := h.lookup ht
    cases hm : lookupStep r endpoint now i id w.shared stage with
    | none => exact .inl (by simp only [step, ht, taskStep, hm, Option.map_none])
    | some m => exact .inr ⟨id, stage, m.1, m.2, rfl, hm, by simp only [step, ht, taskStep, hm, Option.map_some]⟩

theorem World.LooksUp.next {ids : List String} (h : w.LooksUp ids) (r : Resolver) (endpoint : Nat → Response)
    (now i : Nat) : (step r endpoint now i w).LooksUp ids := by
  rcases h.step_cases r endpoint now i with he | ⟨id, stage, stage', s', ht, -, he⟩
  · rw [he]
    exact h
  · rw [he]
    exact h.set ht

/-- **A step leaves the base, or it is one more lookup on the base.** -/
theorem Locked.next {ids : List String} (h : Locked r endpoint now base w) (hl : w.LooksUp ids) (i : Nat) :
    ∃ base', Locked r endpoint now base' (step r endpoint now i w) ∧
      Advance r endpoint now w (step r endpoint now i w) base base' := by
  rcases hl.step_cases r endpoint now i with he | ⟨id, stage, stage', s', ht, hm, he⟩
  · rw [he]
    exact ⟨base, h, .quiet fun _ => rfl⟩
  · rw [he]
    by_cases hin : stage.Inside
    · exact h.move_inside ht hin hm
    · exact h.move_outside ht hin hm

/-! ## Runs -/

/-- The lookups that took effect, in the order in which they did, answer as they would one after the other. -/
structure Served (r : Resolver) (endpoint : Nat → Response) (now : Nat) (ids : List String) (start : State) (w : World)
    (order : List (Fin ids.length)) (base : State) : Prop where
  looksUp : w.LooksUp ids
  locked : Locked r endpoint now base w
  nodup : order.Nodup
  mem_order : ∀ i : Fin ids.length, i ∈ order ↔ (w.settled? i).isSome = true
  serial : r.run endpoint (calls ids now order) start =
    (order.map fun i : Fin ids.length => (w.settled? i).bind Resolver.reported, base)

variable {ids : List String} {start : State} {order : List (Fin ids.length)}

theorem Served.ofIds (r : Resolver) (endpoint : Nat → Response) (now : Nat) (start : State) (ids : List String) :
    Served r endpoint now ids start (World.ofIds start ids) [] start := by
  have hget (i : Nat) : (World.ofIds start ids).tasks[i]? = ids[i]?.map fun id => .lookup id .starting :=
    List.getElem?_map
  refine ⟨?_, ⟨?_, fun _ => rfl, fun i hi => by cases hi⟩, List.nodup_nil, ?_, rfl⟩
  · simp only [World.LooksUp, World.ofIds, List.map_map]
    rfl
  · intro i id stage hi
    rw [hget] at hi
    obtain ⟨id', -, he⟩ := Option.map_eq_some_iff.1 hi
    cases he
    exact iff_of_false (fun hin => hin) (fun he => by cases he)
  · intro i
    rw [World.settled?, hget, List.getElem?_eq_getElem i.isLt]
    exact iff_of_false List.not_mem_nil (by simp [Task.settled?, LookupStage.settled?])

variable {w' : World}

theorem Served.of_quiet (h : Served r endpoint now ids start w order base) (hl : w'.LooksUp ids)
    (hk : Locked r endpoint now base w') (same : ∀ j, w'.settled? j = w.settled? j) :
    Served r endpoint now ids start w' order base := by
  refine ⟨hl, hk, h.nodup, fun j => ?_, ?_⟩
  · rw [same]
    exact h.mem_order j
  · simp only [same]
    exact h.serial

/-- The lookup that takes effect comes last in the order. -/
theorem Served.of_settled (h : Served r endpoint now ids start w order base) (hl : w'.LooksUp ids)
    (hk : Locked r endpoint now base' w') {i : Fin ids.length} {a : Except KeyFailure SigningKey}
    (new : w.settled? i = none) (settled : w'.settled? i = some a)
    (others : ∀ j, j ≠ (i : Nat) → w'.settled? j = w.settled? j)
    (serial : r.keyFor endpoint (.still now) ids[i] base = (a, base')) :
    Served r endpoint now ids start w' (order ++ [i]) base' := by
  have hnew : i ∉ order := by
    rw [h.mem_order, new]
    simp
  have hne (j : Fin ids.length) (hj : j ∈ order) : (j : Nat) ≠ i := fun he => hnew (Fin.ext he ▸ hj)
  refine ⟨hl, hk, ?_, fun j => ?_, ?_⟩
  · exact List.nodup_append.2 ⟨h.nodup, List.nodup_singleton i, fun j hj k hk he =>
      hnew (by rwa [← List.mem_singleton.1 hk, ← he])⟩
  · by_cases hj : j = i
    · subst hj
      simp [settled]
    · rw [others j fun he => hj (Fin.ext he), ← h.mem_order, List.mem_append, List.mem_singleton]
      exact or_iff_left hj
  · have hcall : r.perform endpoint ⟨.keyFor ids[i], .still now⟩ base = (Resolver.reported a, base') := by
      rw [Resolver.perform_of_id rfl, serial]
    have hbefore : (order.map fun j : Fin ids.length => (w'.settled? j).bind Resolver.reported) =
        order.map fun j : Fin ids.length => (w.settled? j).bind Resolver.reported :=
      List.map_congr_left fun j hj => by rw [others j (hne j hj)]
    have hrun := h.serial
    rw [calls] at hrun ⊢
    rw [List.map_append, Resolver.run_append, hrun, List.map_append, hbefore]
    simp only [List.map_cons, List.map_nil, Resolver.run, hcall, settled, Option.bind_some]

theorem Served.next (h : Served r endpoint now ids start w order base) (i : Nat) :
    ∃ order' base', Served r endpoint now ids start (step r endpoint now i w) order' base' := by
  obtain ⟨base', hlocked, hadvance⟩ := h.locked.next h.looksUp i
  have hlooks := h.looksUp.next r endpoint now i
  cases hadvance with
  | quiet same => exact ⟨order, base, h.of_quiet hlooks hlocked same⟩
  | @settles i id a base' task new settled others serial =>
    rw [h.looksUp.id?_eq] at task
    obtain ⟨hi, rfl⟩ := List.getElem?_eq_some_iff.1 task
    exact ⟨order ++ [⟨i, hi⟩], base', h.of_settled hlooks hlocked new settled others serial⟩

/-- **Every interleaving serves the lookups that took effect as one order of them does.** -/
theorem Served.after (h : Served r endpoint now ids start w order base) (turns : List Nat) :
    ∃ order' base', Served r endpoint now ids start (run r endpoint (turns.map fun i => (i, now)) w) order' base' := by
  induction turns generalizing w order base with
  | nil => exact ⟨order, base, h⟩
  | cons i turns ih =>
    obtain ⟨order', base', h'⟩ := h.next i
    exact ih h'

/-- When all lookups are done, the order is one of all tasks, and what they share is the base. -/
theorem Served.of_done (h : Served r endpoint now ids start w order base) (hd : w.tasks.all Task.isDone = true) :
    order.Perm (List.finRange ids.length) ∧
      r.run endpoint (calls ids now order) start = (order.map fun i : Fin ids.length => w.answer i, w.shared.state) := by
  have htask (i : Fin ids.length) : ∃ t, w.tasks[(i : Nat)]? = some t ∧ t.isDone = true ∧ t.id? = some ids[i] := by
    have hid := h.looksUp.id?_eq i
    rw [List.getElem?_eq_getElem i.isLt] at hid
    obtain ⟨t, ht, hid⟩ := Option.bind_eq_some_iff.1 hid
    exact ⟨t, ht, List.all_eq_true.1 hd t (List.mem_of_getElem? ht), hid⟩
  constructor
  · refine (List.perm_ext_iff_of_nodup h.nodup (List.nodup_finRange _)).2 fun i => ?_
    obtain ⟨t, ht, hdone, hid⟩ := htask i
    rw [h.mem_order, World.settled?, ht]
    exact iff_of_true (Task.isSome_settled?_of_isDone hdone hid) (List.mem_finRange i)
  · have hanswers : (order.map fun i : Fin ids.length => (w.settled? i).bind Resolver.reported) =
        order.map fun i : Fin ids.length => w.answer i := by
      refine List.map_congr_left fun i _ => ?_
      obtain ⟨t, ht, hdone, -⟩ := htask i
      simp only [World.settled?, World.answer, ht, Option.bind_some, Task.settled?_of_isDone hdone]
    -- A holder of the lock is not done.
    have hfree : w.shared.holder = none := by
      cases hh : w.shared.holder with
      | none => rfl
      | some i =>
        obtain ⟨id, stage, ht, hheld⟩ := h.locked.held i hh
        have hdone := List.all_eq_true.1 hd _ (List.mem_of_getElem? ht)
        generalize w.shared.state = state at hheld
        cases hheld <;> cases hdone
    rw [h.serial, hanswers, h.locked.free hfree]

/-! ## One fetch -/

theorem askedOnce_calls (hf : 0 < r.refreshFloor) (ids : List String) (order : List (Fin ids.length)) {s : State}
    (hs : AskedOnce start now s) : AskedOnce start now (r.run endpoint (calls ids now order) s).2 := by
  induction order generalizing s with
  | nil => exact hs
  | cons i order ih =>
    have hcall : (r.perform endpoint ⟨.keyFor ids[i], .still now⟩ s).2 =
        (r.keyFor endpoint (.still now) ids[i] s).2 := by
      rw [Resolver.perform_of_id rfl]
    have hnext : AskedOnce start now (r.perform endpoint ⟨.keyFor ids[i], .still now⟩ s).2 := by
      rw [hcall]
      exact hs.keyFor hf ids[i]
    exact ih hnext

/-- With a floor, all lookups together send at most one request. -/
theorem Served.requests_le (h : Served r endpoint now ids start w order base) (hf : 0 < r.refreshFloor) :
    w.shared.state.requests ≤ start.requests + 1 := by
  have hbase : AskedOnce start now base := by
    have hstart : AskedOnce start now start := .inl rfl
    have hrun : AskedOnce start now (r.run endpoint (calls ids now order) start).2 := askedOnce_calls hf ids order hstart
    rwa [h.serial] at hrun
  have hle : base.requests ≤ start.requests + 1 := by
    rcases hbase with hb | ⟨hb, -⟩ <;> omega
  cases hh : w.shared.holder with
  | none => rwa [h.locked.free hh]
  | some i =>
    obtain ⟨id, stage, -, hheld⟩ := h.locked.held i hh
    generalize w.shared.state = state at hheld
    cases hheld with
    | rechecking => exact hle
    | deciding missed => exact hle
    | asking missed idle => exact Nat.le_of_eq (congrArg (· + 1) (hbase.requests_eq hf idle))
    | filling missed idle brought => exact Nat.le_of_eq (congrArg (· + 1) (hbase.requests_eq hf idle))
    | leaving a => exact hle

/-! ## No lookup waits for ever -/

theorem remaining_lt_of_step (hm : lookupStep r endpoint now i id s stage = some (stage', s')) :
    stage'.remaining < stage.remaining := by
  cases stage with
  | starting =>
    simp only [lookupStep] at hm
    split at hm <;> cases hm <;> simp [LookupStage.remaining]
  | waiting =>
    obtain ⟨s, -, hm⟩ := Option.map_eq_some_iff.1 hm
    cases hm
    decide
  | rechecking =>
    simp only [lookupStep] at hm
    split at hm <;> cases hm <;> simp [LookupStage.remaining]
  | deciding =>
    simp only [lookupStep] at hm
    split at hm <;> cases hm <;> simp [LookupStage.remaining]
  | asking request =>
    simp only [lookupStep] at hm
    split at hm <;> cases hm <;> simp [LookupStage.remaining]
  | filling keys =>
    cases hm
    simp [LookupStage.remaining]
  | leaving a =>
    cases hm
    exact Nat.one_pos
  | done a => cases hm

/-- A lookup that cannot move is done, or it waits for a lock that is taken. -/
theorem isSome_lookupStep (hd : (Task.lookup id stage).isDone ≠ true) (hw : stage = .waiting → s.holder = none) :
    (lookupStep r endpoint now i id s stage).isSome = true := by
  cases stage with
  | starting =>
    simp only [lookupStep]
    split <;> rfl
  | waiting => simp [lookupStep, Shared.lock?, hw rfl]
  | rechecking =>
    simp only [lookupStep]
    split <;> rfl
  | deciding =>
    simp only [lookupStep]
    split <;> rfl
  | asking request =>
    simp only [lookupStep]
    split <;> rfl
  | filling keys => rfl
  | leaving a => rfl
  | done a => exact absurd rfl hd

/-- While a lookup is not done, some lookup can move: the holder of the lock, or anyone if nobody holds it. -/
theorem Served.exists_move (h : Served r endpoint now ids start w order base) (hd : w.tasks.all Task.isDone ≠ true) :
    ∃ i id stage, w.tasks[i]? = some (.lookup id stage) ∧
      (lookupStep r endpoint now i id w.shared stage).isSome = true := by
  cases hh : w.shared.holder with
  | some i =>
    obtain ⟨id, stage, ht, hheld⟩ := h.locked.held i hh
    refine ⟨i, id, stage, ht, isSome_lookupStep ?_ ?_⟩ <;>
      generalize w.shared.state = state at hheld <;> cases hheld <;> rintro ⟨⟩
  | none =>
    simp only [ne_eq, List.all_eq_true, not_forall] at hd
    obtain ⟨t, hmem, hdone⟩ := hd
    obtain ⟨i, ht⟩ := List.getElem?_of_mem hmem
    obtain ⟨id, stage, rfl⟩ := h.looksUp.lookup ht
    exact ⟨i, id, stage, ht, isSome_lookupStep hdone fun _ => hh⟩

theorem remaining_set_lt {t t' : Task} (ht : w.tasks[i]? = some t) (hlt : t'.remaining < t.remaining) :
    World.remaining ⟨s', w.tasks.set i t'⟩ < w.remaining := by
  obtain ⟨hi, hget⟩ := List.getElem?_eq_some_iff.1 ht
  have hcut : w.tasks = w.tasks.take i ++ t :: w.tasks.drop (i + 1) := by
    rw [← hget, List.getElem_cons_drop, List.take_append_drop]
  rw [World.remaining, World.remaining, List.set_eq_take_append_cons_drop, if_pos hi]
  conv_rhs => rw [hcut]
  simp only [List.map_append, List.map_cons, List.sum_append, List.sum_cons]
  omega

/-- Whatever happened so far, the lookups can all be brought to their end. -/
theorem Served.exists_done (h : Served r endpoint now ids start w order base) :
    ∃ more : List Nat, (run r endpoint (more.map fun i => (i, now)) w).tasks.all Task.isDone = true := by
  induction hn : w.remaining using Nat.strong_induction_on generalizing w order base with
  | _ n ih =>
    by_cases hd : w.tasks.all Task.isDone = true
    · exact ⟨[], hd⟩
    · obtain ⟨i, id, stage, ht, hmove⟩ := h.exists_move hd
      obtain ⟨⟨stage', s'⟩, hm⟩ := Option.isSome_iff_exists.1 hmove
      have hstep : step r endpoint now i w = ⟨s', w.tasks.set i (.lookup id stage')⟩ := by
        simp only [step, ht, taskStep, hm, Option.map_some]
      have hlt : (step r endpoint now i w).remaining < n := by
        rw [hstep, ← hn]
        exact remaining_set_lt ht (remaining_lt_of_step hm)
      obtain ⟨order', base', h'⟩ := h.next i
      obtain ⟨more, hmore⟩ := ih _ hlt h' rfl
      exact ⟨i :: more, hmore⟩

/-! ## Serializability -/

/-- **Lookups that run side by side are lookups one after the other**: however lookups at one instant come between one
another, when all are done there is an order of them in which calls one after the other answer the same and leave the
same cache, the same last attempt and the same number of requests.  With a floor, all of them together send at most one
request, also while some are under way.  And whatever happened so far, they can all be brought to their end. -/
theorem lookups_serializable (r : Resolver) (endpoint : Nat → Response) (now : Nat) (start : State) (ids : List String)
    (turns : List Nat) :
    let w := run r endpoint (turns.map fun i => (i, now)) (World.ofIds start ids)
    (w.tasks.all Task.isDone = true → ∃ order : List (Fin ids.length), order.Perm (List.finRange ids.length) ∧
      r.run endpoint (calls ids now order) start =
        (order.map fun i : Fin ids.length => w.answer i, w.shared.state)) ∧
    (0 < r.refreshFloor → w.shared.state.requests ≤ start.requests + 1) ∧
    ∃ more : List Nat, (run r endpoint (more.map fun i => (i, now)) w).tasks.all Task.isDone = true := by
  intro w
  obtain ⟨order, base, h⟩ := (Served.ofIds r endpoint now start ids).after turns
  exact ⟨fun hd => ⟨order, h.of_done hd⟩, h.requests_le, h.exists_done⟩

end Interleaving
end DatastoreAccess
