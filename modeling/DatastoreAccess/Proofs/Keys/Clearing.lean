import DatastoreAccess.Proofs.Keys.Serial
/-!
# Proofs.Keys.Clearing — which keys a clearing drops

Lookups and clearings run side by side, and every step has its own instant.  A clearing empties the cache before it
waits for the lock, so a fetch that is under way fills the cache behind it.  Every other key that is answered behind the
clearing comes from a request that was sent after the clearing began (`Traced`), and the one fetch that holds the lock
can bring its keys back (`exists_answer_of_fetching`).  So a clearing drops all keys exactly when no fetch with a key to
bring is under way as it begins (`drops_iff`).
-/
namespace DatastoreAccess.Interleaving

open KeyEndpoint (Response)
open Resolver (answerOf_eq_ok)

/-! ## What a task can do -/

namespace Task

/-- The task holds the lock. -/
def Inside : Task → Prop
  | .lookup _ stage => stage.Inside
  | .clearing .resetting => True
  | .clearing _ => False

/-- If the task has a request under way, then the number of the request has a property. -/
def Asks (endpoint : Nat → Response) (P : Nat → Prop) : Task → Prop
  | .lookup _ (.asking n) => P n
  | .lookup _ (.filling keys) => ∃ n, P n ∧ (endpoint n).keys = .ok keys
  | _ => True

/-- The task has not begun. -/
def Unbegun : Task → Prop
  | .lookup _ .starting | .clearing .starting => True
  | _ => False

end Task

variable {r : Resolver} {endpoint : Nat → Response} {now i j m : Nat} {id : String} {s s' : Shared} {t t' : Task}
  {w w' : World} {P Q : Nat → Prop} {k : SigningKey}

/-- The steps of a task. -/
inductive Turn (r : Resolver) (endpoint : Nat → Response) (now i : Nat) (s : Shared) : Task → Task → Shared → Prop where
  | hit {id : String} {k : SigningKey} (found : s.cache.fresh? r.lifetime now id = some k) :
      Turn r endpoint now i s (.lookup id .starting) (.lookup id (.done (.ok k))) s
  | miss {id : String} : Turn r endpoint now i s (.lookup id .starting) (.lookup id .waiting) s
  | enter {id : String} (free : s.holder = none) :
      Turn r endpoint now i s (.lookup id .waiting) (.lookup id .rechecking) { s with holder := some i }
  | hitInside {id : String} {k : SigningKey} (found : s.cache.fresh? r.lifetime now id = some k) :
      Turn r endpoint now i s (.lookup id .rechecking) (.lookup id (.leaving (.ok k))) s
  | missInside {id : String} : Turn r endpoint now i s (.lookup id .rechecking) (.lookup id .deciding) s
  | floored {id : String} : Turn r endpoint now i s (.lookup id .deciding)
      (.lookup id (.leaving (answerOf id (s.cache.stale? id)))) s
  | ask {id : String} : Turn r endpoint now i s (.lookup id .deciding) (.lookup id (.asking s.state.requests))
      { s with state := ⟨s.cache.noteFetch now, s.state.requests + 1⟩ }
  | brought {id : String} {n : Nat} {keys : List SigningKey} (success : (endpoint n).keys = .ok keys) :
      Turn r endpoint now i s (.lookup id (.asking n)) (.lookup id (.filling keys)) s
  | failed {id : String} {n : Nat} {e : KeyFailure} :
      Turn r endpoint now i s (.lookup id (.asking n)) (.lookup id (.leaving (.error e))) s
  | fill {id : String} {keys : List SigningKey} : Turn r endpoint now i s (.lookup id (.filling keys))
      (.lookup id (.leaving (answerOf id ((s.cache.replace keys now).stale? id))))
      (s.withCache (s.cache.replace keys now))
  | leave {id : String} {a : Except KeyFailure SigningKey} :
      Turn r endpoint now i s (.lookup id (.leaving a)) (.lookup id (.done a)) s.release
  | empty : Turn r endpoint now i s (.clearing .starting) (.clearing .waiting)
      (s.withCache { s.cache with entries := [] })
  | enterClearing (free : s.holder = none) :
      Turn r endpoint now i s (.clearing .waiting) (.clearing .resetting) { s with holder := some i }
  | reset : Turn r endpoint now i s (.clearing .resetting) (.clearing .done)
      (s.withCache { s.cache with lastFetch := none }).release

theorem lock?_eq_some : s.lock? i = some s' ↔ s.holder = none ∧ s' = { s with holder := some i } := by
  rw [Shared.lock?]
  split <;> simp_all [eq_comm]

theorem turn_of_lookupStep {stage stage' : LookupStage}
    (h : lookupStep r endpoint now i id s stage = some (stage', s')) :
    Turn r endpoint now i s (.lookup id stage) (.lookup id stage') s' := by
  unfold lookupStep at h
  split at h
  · split at h <;> cases h
    · exact .hit ‹_›
    · exact .miss
  · obtain ⟨s, hl, h⟩ := Option.map_eq_some_iff.1 h
    obtain ⟨free, rfl⟩ := lock?_eq_some.1 hl
    cases h
    exact .enter free
  · split at h <;> cases h
    · exact .hitInside ‹_›
    · exact .missInside
  · split at h <;> cases h
    · exact .floored
    · exact .ask
  · split at h <;> cases h
    · exact .brought ‹_›
    · exact .failed
  · cases h
    exact .fill
  · cases h
    exact .leave
  · cases h

theorem turn_of_taskStep (h : taskStep r endpoint now i s t = some (t', s')) : Turn r endpoint now i s t t' s' := by
  cases t with
  | lookup id stage =>
    obtain ⟨m, hm, h⟩ := Option.map_eq_some_iff.1 h
    cases h
    exact turn_of_lookupStep hm
  | clearing stage =>
    obtain ⟨m, hm, h⟩ := Option.map_eq_some_iff.1 h
    cases h
    cases stage with
    | starting =>
      cases hm
      exact .empty
    | waiting =>
      obtain ⟨s, hl, h⟩ := Option.map_eq_some_iff.1 hm
      obtain ⟨free, rfl⟩ := lock?_eq_some.1 hl
      cases h
      exact .enterClearing free
    | resetting =>
      cases hm
      exact .reset
    | done => cases hm

theorem step_of_taskStep (r : Resolver) (endpoint : Nat → Response) (now : Nat) (ht : w.tasks[i]? = some t)
    (hm : taskStep r endpoint now i w.shared t = some (t', s')) :
    step r endpoint now i w = ⟨s', w.tasks.set i t'⟩ := by
  simp only [step, ht, hm]

/-- A step of a world: nothing moves, or one task does. -/
theorem step_cases (r : Resolver) (endpoint : Nat → Response) (now i : Nat) (w : World) :
    step r endpoint now i w = w ∨ ∃ t t' s', w.tasks[i]? = some t ∧ Turn r endpoint now i w.shared t t' s' ∧
      step r endpoint now i w = ⟨s', w.tasks.set i t'⟩ := by
  cases ht : w.tasks[i]? with
  | none => exact .inl (by rw [step, ht])
  | some t =>
    cases hm : taskStep r endpoint now i w.shared t with
    | none => exact .inl (by simp only [step, ht, hm])
    | some m => exact .inr ⟨t, m.1, m.2, rfl, turn_of_taskStep hm, step_of_taskStep r endpoint now ht hm⟩

/-- What holds of the task that moved and of every other task holds of all. -/
theorem forall_set {motive : Nat → Task → Prop} (mine : motive i t')
    (others : ∀ j t, j ≠ i → w.tasks[j]? = some t → motive j t) :
    ∀ j t, (w.tasks.set i t')[j]? = some t → motive j t := by
  intro j t hj
  by_cases hji : j = i
  · subst hji
    obtain ⟨-, rfl⟩ := by simpa [List.getElem?_set] using hj
    exact mine
  · rw [List.getElem?_set_ne (Ne.symm hji)] at hj
    exact others j t hji hj

theorem Turn.holder (h : Turn r endpoint now i s t t' s') :
    ((t'.Inside ↔ t.Inside) ∧ s'.holder = s.holder) ∨ (t'.Inside ∧ s.holder = none ∧ s'.holder = some i) ∨
      (t.Inside ∧ ¬ t'.Inside ∧ s'.holder = none) := by
  cases h with
  | enter free => exact .inr (.inl ⟨trivial, free, rfl⟩)
  | enterClearing free => exact .inr (.inl ⟨trivial, free, rfl⟩)
  | leave => exact .inr (.inr ⟨trivial, id, rfl⟩)
  | reset => exact .inr (.inr ⟨trivial, id, rfl⟩)
  | _ => exact .inl ⟨Iff.rfl, rfl⟩

theorem Turn.requests_cases (h : Turn r endpoint now i s t t' s') :
    s'.state.requests = s.state.requests ∨ t.Inside ∧ s'.state.requests = s.state.requests + 1 := by
  cases h with
  | ask => exact .inr ⟨trivial, rfl⟩
  | _ => exact .inl rfl

/-- A request that is under way was under way before, or it is the next one. -/
theorem Turn.asks (h : Turn r endpoint now i s t t' s') (ht : t.Asks endpoint P)
    (old : ∀ n, P n → s'.state.requests = s.state.requests → Q n)
    (new : s'.state.requests = s.state.requests + 1 → Q s.state.requests) : t'.Asks endpoint Q := by
  cases h with
  | ask => exact new rfl
  | brought success => exact ⟨_, old _ ht rfl, success⟩
  | _ => trivial

theorem Task.Asks.of_not_inside (ht : ¬ t.Inside) : t.Asks endpoint P := by
  cases t with
  | clearing stage => trivial
  | lookup id stage => cases stage <;> first | trivial | exact absurd trivial ht

theorem Task.Asks.imp (ht : t.Asks endpoint P) (h : ∀ n, P n → Q n) : t.Asks endpoint Q := by
  cases t with
  | clearing stage => trivial
  | lookup id stage =>
    cases stage with
    | asking n => exact h n ht
    | filling keys =>
      obtain ⟨n, hn, hk⟩ := ht
      exact ⟨n, h n hn, hk⟩
    | _ => trivial

/-! ## The lock -/

/-- One task at a time holds the lock, and only its request can be under way: the last one. -/
structure Guarded (endpoint : Nat → Response) (w : World) : Prop where
  inside : ∀ (j : Nat) (t : Task), w.tasks[j]? = some t → (t.Inside ↔ w.shared.holder = some j)
  asks : ∀ (j : Nat) (t : Task), w.tasks[j]? = some t → t.Asks endpoint fun n => n + 1 = w.shared.state.requests

theorem Guarded.next (h : Guarded endpoint w) (r : Resolver) (now i : Nat) :
    Guarded endpoint (step r endpoint now i w) := by
  rcases step_cases r endpoint now i w with he | ⟨t, t', s', ht, hturn, he⟩
  · rw [he]
    exact h
  · rw [he]
    constructor
    · -- The lock stays with its holder, it is taken by the task that moves, or that task gives it back.
      rcases hturn.holder with ⟨hin, hh⟩ | ⟨hin, hfree, hh⟩ | ⟨hin, hout, hh⟩
      · refine forall_set ?_ fun j tj _ hj => ?_
        · rw [hin, hh]
          exact h.inside i t ht
        · rw [hh]
          exact h.inside j tj hj
      · refine forall_set (iff_of_true hin hh) fun j tj hji hj => ?_
        rw [h.inside j tj hj, hfree, hh]
        exact iff_of_false nofun fun he => hji (Option.some.inj he).symm
      · refine forall_set (iff_of_false hout (by rw [hh]; nofun)) fun j tj hji hj => ?_
        rw [h.inside j tj hj, (h.inside i t ht).1 hin, hh]
        exact iff_of_false (fun he => hji (Option.some.inj he).symm) nofun
    · refine forall_set ?_ fun j tj hji hj => ?_
      · exact hturn.asks (h.asks i t ht) (fun n hn hr => hn.trans hr.symm) (fun hr => hr.symm)
      · rcases hturn.requests_cases with hr | ⟨hin, -⟩
        · exact (h.asks j tj hj).imp fun n hn => hn.trans hr.symm
        · refine .of_not_inside fun hin' => hji (Option.some.inj ?_)
          rw [← (h.inside j tj hj).1 hin', (h.inside i t ht).1 hin]

/-- Nothing has begun, and nobody holds the lock. -/
structure World.Idle (w : World) : Prop where
  free : w.shared.holder = none
  unbegun : ∀ t ∈ w.tasks, t.Unbegun

theorem Guarded.of_idle (h : w.Idle) : Guarded endpoint w := by
  have hout (j : Nat) (t : Task) (hj : w.tasks[j]? = some t) : ¬ t.Inside := by
    have hu := h.unbegun t (List.mem_of_getElem? hj)
    cases t with
    | lookup id stage => cases stage <;> first | exact hu.elim | exact fun hin => hin
    | clearing stage => cases stage <;> first | exact hu.elim | exact fun hin => hin
  refine ⟨fun j t hj => iff_of_false (hout j t hj) (by rw [h.free]; nofun), fun j t hj => .of_not_inside (hout j t hj)⟩

theorem Guarded.run (h : Guarded endpoint w) (r : Resolver) (schedule : List (Nat × Nat)) :
    Guarded endpoint (run r endpoint schedule w) := by
  induction schedule generalizing w with
  | nil => exact h
  | cons turn schedule ih => exact ih (h.next r turn.2 turn.1)

/-! ## Where keys come from -/

/-- A response with a property publishes the key. -/
def Sourced (endpoint : Nat → Response) (P : Nat → Prop) (id : String) (k : SigningKey) : Prop :=
  ∃ n set, P n ∧ (endpoint n).Brings set ∧ set.Publishes id k

/-- A request that was sent, with a property. -/
def Shared.Sent (s : Shared) (P : Nat → Prop) (n : Nat) : Prop := n < s.state.requests ∧ P n

theorem Sourced.imp (h : Sourced endpoint P id k) (hPQ : ∀ n, P n → Q n) : Sourced endpoint Q id k := by
  obtain ⟨n, set, hn, hb⟩ := h
  exact ⟨n, set, hPQ n hn, hb⟩

theorem Turn.cached (h : Turn r endpoint now i s t t' s') (ht : t.Asks endpoint P)
    (hc : ∀ id k, s.cache.stale? id = some k → Sourced endpoint P id k) :
    ∀ id k, s'.cache.stale? id = some k → Sourced endpoint P id k := by
  cases h with
  | @fill _ keys =>
    intro id k hk
    obtain ⟨n, hn, hkeys⟩ := ht
    obtain ⟨set, hb, rfl⟩ := Response.keys_eq_ok.1 hkeys
    have hfound : (s.cache.replace set.usable now).stale? id = some k := hk
    rw [KeyCache.stale?_replace] at hfound
    exact ⟨n, set, hn, hb, KeySet.find?_eq_some.1 hfound⟩
  | empty => exact nofun
  | _ => exact hc

theorem Turn.id?_eq (h : Turn r endpoint now i s t t' s') : t'.id? = t.id? := by
  cases h <;> rfl

/-- An answer is read off the cache. -/
theorem Turn.answered (h : Turn r endpoint now i s t t' s') (hid : t'.id? = some id)
    (ha : t'.settled? = some (.ok k)) : t.settled? = some (.ok k) ∨ s'.cache.stale? id = some k := by
  cases h with
  | hit found | hitInside found =>
    cases hid
    cases ha
    exact .inr (KeyCache.stale?_of_fresh? found)
  | floored =>
    cases hid
    exact .inr (answerOf_eq_ok.1 (Option.some.inj ha))
  | fill =>
    cases hid
    exact .inr (answerOf_eq_ok.1 (Option.some.inj ha))
  | leave => exact .inl ha
  | _ => cases ha

/-- Keys come from requests with a property: those in the cache, those under way, and what one of the tasks answers. -/
structure Traced (endpoint : Nat → Response) (P : Nat → Prop) (j : Nat) (w : World) : Prop where
  later : ∀ n, w.shared.state.requests ≤ n → P n
  cached : ∀ id k, w.shared.cache.stale? id = some k → Sourced endpoint (w.shared.Sent P) id k
  asks : ∀ (i : Nat) (t : Task), w.tasks[i]? = some t → t.Asks endpoint (w.shared.Sent P)
  answered : ∀ (t : Task) id k, w.tasks[j]? = some t → t.id? = some id → t.settled? = some (.ok k) →
    Sourced endpoint (w.shared.Sent P) id k

theorem Traced.next (h : Traced endpoint P j w) (r : Resolver) (now i : Nat) :
    Traced endpoint P j (step r endpoint now i w) := by
  rcases step_cases r endpoint now i w with he | ⟨t, t', s', ht, hturn, he⟩
  · rw [he]
    exact h
  · rw [he]
    have hle : w.shared.state.requests ≤ s'.state.requests := by
      rcases hturn.requests_cases with hr | ⟨-, hr⟩ <;> omega
    have hsent (n : Nat) (hn : w.shared.Sent P n) : s'.Sent P n := ⟨Nat.lt_of_lt_of_le hn.1 hle, hn.2⟩
    have hcached := hturn.cached ((h.asks i t ht).imp hsent) fun id k hk => (h.cached id k hk).imp hsent
    refine ⟨fun n hn => h.later n (hle.trans hn), hcached,
      forall_set ?_ fun j tj _ hj => (h.asks j tj hj).imp hsent, ?_⟩
    · refine hturn.asks (h.asks i t ht) (fun n hn _ => hsent n hn) fun hr => ?_
      exact ⟨by rw [hr]; exact Nat.lt_succ_self _, h.later _ (Nat.le_refl _)⟩
    · intro tj id k hj hid ha
      have hmine : ∀ i' u, (w.tasks.set i t')[i']? = some u → i' = j → u.id? = some id →
          u.settled? = some (.ok k) → Sourced endpoint (s'.Sent P) id k := by
        refine forall_set (fun hij hid ha => ?_) (fun i' u _ hu hi' hid ha => ?_)
        · rcases hturn.answered hid ha with hold | hfound
          · exact (h.answered t id k (hij ▸ ht) (hturn.id?_eq ▸ hid) hold).imp hsent
          · exact hcached id k hfound
        · exact (h.answered u id k (hi' ▸ hu) hid ha).imp hsent
      exact hmine j tj hj rfl hid ha

theorem Traced.run (h : Traced endpoint P j w) (r : Resolver) (schedule : List (Nat × Nat)) :
    Traced endpoint P j (run r endpoint schedule w) := by
  induction schedule generalizing w with
  | nil => exact h
  | cons turn schedule ih => exact ih (h.next r turn.2 turn.1)

/-! ## Clearings -/

/-- A lookup has sent a request, and the keys are not in the cache yet. -/
def World.Fetching (w : World) : Prop :=
  ∃ (p : Nat) (id : String), (∃ n, w.tasks[p]? = some (.lookup id (.asking n))) ∨
    ∃ keys, w.tasks[p]? = some (.lookup id (.filling keys))

/-- A clearing begins in `w` at an instant and ends during the turns that follow, before a lookup begins; behind further
turns the lookup answers a key in `w'`. -/
structure Answers (r : Resolver) (endpoint : Nat → Response) (w : World) (i j : Nat) (id : String) (k : SigningKey)
    (w' : World) (now : Nat) (during after : List (Nat × Nat)) : Prop where
  cleared : (run r endpoint during (step r endpoint now i w)).tasks[i]? = some (.clearing .done)
  unbegun : (run r endpoint during (step r endpoint now i w)).tasks[j]? = some (.lookup id .starting)
  reached : w' = run r endpoint after (run r endpoint during (step r endpoint now i w))
  answered : w'.tasks[j]? = some (.lookup id (.done (.ok k)))

def AnswersBehind (r : Resolver) (endpoint : Nat → Response) (w : World) (i j : Nat) (id : String) (k : SigningKey)
    (w' : World) : Prop :=
  ∃ now during after, Answers r endpoint w i j id k w' now during after

/-- The clearing that begins in `w` drops all keys: a lookup behind it answers from a request that was sent since. -/
def Drops (r : Resolver) (endpoint : Nat → Response) (w : World) (i j : Nat) (id : String) : Prop :=
  ∀ k w', AnswersBehind r endpoint w i j id k w' →
    Sourced endpoint (w'.shared.Sent fun n => w.shared.state.requests ≤ n) id k

/-- From the instant `t` on the clock never goes back. -/
def Onward (t : Nat) (schedule : List (Nat × Nat)) : Prop := (t :: schedule.map Prod.snd).Pairwise (· ≤ ·)

/-- The clearing drops all keys as long as the clock goes on from the instant `t`. -/
def DropsFrom (r : Resolver) (endpoint : Nat → Response) (t : Nat) (w : World) (i j : Nat) (id : String) : Prop :=
  ∀ k w' now during after, Onward t ((i, now) :: (during ++ after)) → Answers r endpoint w i j id k w' now during after →
    Sourced endpoint (w'.shared.Sent fun n => w.shared.state.requests ≤ n) id k

theorem onward_of_still {t : Nat} {schedule : List (Nat × Nat)} (h : ∀ turn ∈ schedule, turn.2 = t) :
    Onward t schedule := by
  have hall : ∀ a ∈ t :: schedule.map Prod.snd, a = t :=
    List.forall_mem_cons.2 ⟨rfl, List.forall_mem_map.2 h⟩
  exact List.pairwise_of_forall_mem_list fun a ha b hb => Nat.le_of_eq ((hall a ha).trans (hall b hb).symm)

theorem Traced.of_clearing (h : Guarded endpoint w) (hi : w.tasks[i]? = some (.clearing .starting))
    (hj : w.tasks[j]? = some (.lookup id .starting)) (now : Nat) :
    Traced endpoint (fun n => w.shared.state.requests ≤ n ∨ w.Fetching ∧ n + 1 = w.shared.state.requests) j
      (step r endpoint now i w) := by
  have he : step r endpoint now i w =
      ⟨w.shared.withCache { w.shared.cache with entries := [] }, w.tasks.set i (.clearing .waiting)⟩ :=
    step_of_taskStep r endpoint now hi rfl
  have hij : j ≠ i := by
    rintro rfl
    cases hi.symm.trans hj
  rw [he]
  refine ⟨fun n hn => .inl hn, nofun, forall_set trivial fun p t _ hp => ?_, fun t id' k ht _ ha => ?_⟩
  · have hasks := h.asks p t hp
    cases t with
    | clearing stage => trivial
    | lookup id stage =>
      cases stage with
      | asking n =>
        have hn : n + 1 = w.shared.state.requests := hasks
        exact ⟨by show n < w.shared.state.requests; omega, .inr ⟨⟨p, id, .inl ⟨n, hp⟩⟩, hn⟩⟩
      | filling keys =>
        obtain ⟨n, hn, hk⟩ := hasks
        exact ⟨n, ⟨by show n < w.shared.state.requests; omega, .inr ⟨⟨p, id, .inr ⟨keys, hp⟩⟩, hn⟩⟩, hk⟩
      | _ => trivial
  · rw [List.getElem?_set_ne hij.symm, hj] at ht
    cases ht
    cases ha

/-! ## A fetch under way -/

section
variable {q : String} {p : Nat} {keys : List SigningKey}

theorem getElem?_set_of_some (ht : w.tasks[i]? = some t) : (w.tasks.set i t')[i]? = some t' :=
  List.getElem?_set_self (List.getElem?_eq_some_iff.1 ht).1

/-- The task that holds the lock fills the cache and leaves. -/
theorem run_filling (r : Resolver) (endpoint : Nat → Response) (now : Nat)
    (hp : w.tasks[p]? = some (.lookup q (.filling keys))) :
    (run r endpoint [(p, now), (p, now)] w).shared =
        ⟨⟨w.shared.cache.replace keys now, w.shared.state.requests⟩, none⟩ ∧
      ∀ l, l ≠ p → (run r endpoint [(p, now), (p, now)] w).tasks[l]? = w.tasks[l]? := by
  have hfill := step_of_taskStep r endpoint now hp rfl
  have hleave := step_of_taskStep r endpoint now (w := step r endpoint now p w)
    (by rw [hfill]; exact getElem?_set_of_some hp) rfl
  simp only [run, List.foldl_cons, List.foldl_nil, hleave]
  rw [hfill]
  refine ⟨rfl, fun l hl => ?_⟩
  rw [List.getElem?_set_ne hl.symm, List.getElem?_set_ne hl.symm]

theorem run_asking (r : Resolver) (now : Nat) {n : Nat} (hp : w.tasks[p]? = some (.lookup q (.asking n)))
    (hkeys : (endpoint n).keys = .ok keys) :
    (run r endpoint [(p, now), (p, now), (p, now)] w).shared =
        ⟨⟨w.shared.cache.replace keys now, w.shared.state.requests⟩, none⟩ ∧
      ∀ l, l ≠ p → (run r endpoint [(p, now), (p, now), (p, now)] w).tasks[l]? = w.tasks[l]? := by
  have hm : taskStep r endpoint now p w.shared (.lookup q (.asking n)) =
      some (.lookup q (.filling keys), w.shared) := by
    simp only [taskStep, lookupStep, hkeys, Option.map_some]
  have hbrought := step_of_taskStep r endpoint now hp hm
  obtain ⟨hs, ht⟩ := run_filling r endpoint now (w := step r endpoint now p w)
    (by rw [hbrought]; exact getElem?_set_of_some hp)
  have hrun : run r endpoint [(p, now), (p, now), (p, now)] w =
      run r endpoint [(p, now), (p, now)] (step r endpoint now p w) := rfl
  rw [hrun]
  refine ⟨by rw [hs, hbrought], fun l hl => ?_⟩
  rw [ht l hl, hbrought, List.getElem?_set_ne hl.symm]

/-- A fetch under way, left alone, fills the cache with the keys of the last request. -/
theorem exists_turns_of_fetching (h : Guarded endpoint w)
    (hp : (∃ n, w.tasks[p]? = some (.lookup q (.asking n))) ∨ ∃ keys, w.tasks[p]? = some (.lookup q (.filling keys)))
    {n : Nat} (hn : n + 1 = w.shared.state.requests) {set : KeySet} (hb : (endpoint n).Brings set) (r : Resolver)
    (now : Nat) : ∃ turns : Nat,
      (run r endpoint (List.replicate turns (p, now)) w).shared =
        ⟨⟨w.shared.cache.replace set.usable now, w.shared.state.requests⟩, none⟩ ∧
      ∀ l, l ≠ p → (run r endpoint (List.replicate turns (p, now)) w).tasks[l]? = w.tasks[l]? := by
  rcases hp with ⟨n', hp⟩ | ⟨keys, hp⟩
  · have hn' : n' + 1 = w.shared.state.requests := h.asks p _ hp
    obtain rfl : n' = n := by omega
    exact ⟨3, run_asking r now hp hb.keys⟩
  · obtain ⟨n', hn', hkeys⟩ := h.asks p _ hp
    obtain rfl : n' = n := by omega
    rw [hb.keys] at hkeys
    cases hkeys
    exact ⟨2, run_filling r endpoint now hp⟩

/-- A clearing that waits for the lock takes it, if it is free, and ends. -/
theorem run_waiting (r : Resolver) (endpoint : Nat → Response) (now : Nat)
    (hi : w.tasks[i]? = some (.clearing .waiting)) (hfree : w.shared.holder = none) :
    (run r endpoint [(i, now), (i, now)] w).shared =
        ⟨⟨{ w.shared.cache with lastFetch := none }, w.shared.state.requests⟩, none⟩ ∧
      (run r endpoint [(i, now), (i, now)] w).tasks[i]? = some (.clearing .done) ∧
      ∀ l, l ≠ i → (run r endpoint [(i, now), (i, now)] w).tasks[l]? = w.tasks[l]? := by
  have hm : taskStep r endpoint now i w.shared (.clearing .waiting) =
      some (.clearing .resetting, { w.shared with holder := some i }) := by
    simp only [taskStep, clearStep, lock?_eq_some.2 ⟨hfree, rfl⟩, Option.map_some]
  have henter := step_of_taskStep r endpoint now hi hm
  have hmid : (step r endpoint now i w).tasks[i]? = some (.clearing .resetting) := by
    rw [henter]
    exact getElem?_set_of_some hi
  have hreset := step_of_taskStep r endpoint now hmid rfl
  simp only [run, List.foldl_cons, List.foldl_nil, hreset]
  refine ⟨by rw [henter]; rfl, getElem?_set_of_some hmid, fun l hl => ?_⟩
  rw [List.getElem?_set_ne hl.symm, henter, List.getElem?_set_ne hl.symm]

theorem fresh?_of_filled {c : KeyCache} {set : KeySet} {lifetime : Nat}
    (hc : c.entries = (c.replace set.usable now).entries) (hk : set.Publishes id k) (hl : 0 < lifetime) :
    c.fresh? lifetime now id = some k := by
  have hheld : c.held? id = (c.replace set.usable now).held? id := by rw [KeyCache.held?, hc, KeyCache.held?]
  rw [KeyCache.fresh?, hheld, KeyCache.held?_replace]
  have hf : (set.usable.reverse.find? fun k => k.id = id) = some k := KeySet.find?_eq_some.2 hk
  simp [hf, KeyCache.Entry.expired, hl]

/-- **A fetch that is under way when a clearing begins can bring its keys back**, at whatever instant. -/
theorem exists_answer_of_fetching (h : Guarded endpoint w) (hi : w.tasks[i]? = some (.clearing .starting))
    (hj : w.tasks[j]? = some (.lookup id .starting)) (hf : w.Fetching) {n : Nat} {set : KeySet}
    (hn : n + 1 = w.shared.state.requests) (hb : (endpoint n).Brings set) (hk : set.Publishes id k)
    (hl : 0 < r.lifetime) (t : Nat) :
    ∃ w' during after, Onward t ((i, t) :: (during ++ after)) ∧ Answers r endpoint w i j id k w' t during after ∧
      w'.shared.state.requests = w.shared.state.requests := by
  obtain ⟨p, q, hp⟩ := hf
  have hij : i ≠ j := by
    rintro rfl
    cases hi.symm.trans hj
  have hpi : p ≠ i := by
    rintro rfl
    rcases hp with ⟨n', hp⟩ | ⟨keys, hp⟩ <;> cases hi.symm.trans hp
  have hpj : p ≠ j := by
    rintro rfl
    rcases hp with ⟨n', hp⟩ | ⟨keys, hp⟩ <;> cases hj.symm.trans hp
  -- The clearing empties the cache, the fetch fills it and gives the lock back, the clearing ends, and the lookup finds
  -- the key.
  have hbegin : step r endpoint t i w =
      ⟨w.shared.withCache { w.shared.cache with entries := [] }, w.tasks.set i (.clearing .waiting)⟩ :=
    step_of_taskStep r endpoint t hi rfl
  have hp₁ : (step r endpoint t i w).tasks[p]? = w.tasks[p]? := by
    rw [hbegin, List.getElem?_set_ne hpi.symm]
  have hcount : (step r endpoint t i w).shared.state.requests = w.shared.state.requests := by
    rw [hbegin]
    rfl
  obtain ⟨turns, hshared, hothers⟩ :=
    exists_turns_of_fetching (h.next r t i) (q := q) (by rw [hp₁]; exact hp) (hn.trans hcount.symm) hb r t
  generalize hw₂ : run r endpoint (List.replicate turns (p, t)) (step r endpoint t i w) = w₂ at hshared hothers
  have hi₂ : w₂.tasks[i]? = some (.clearing .waiting) := by
    rw [hothers i hpi.symm, hbegin]
    exact getElem?_set_of_some hi
  obtain ⟨hcleared, hdone, hrest⟩ := run_waiting r endpoint t hi₂ (by rw [hshared])
  generalize hw₃ : run r endpoint [(i, t), (i, t)] w₂ = w₃ at hcleared hdone hrest
  have hj₃ : w₃.tasks[j]? = some (.lookup id .starting) := by
    rw [hrest j hij.symm, hothers j hpj.symm, hbegin, List.getElem?_set_ne hij, hj]
  have hfresh : w₃.shared.cache.fresh? r.lifetime t id = some k :=
    fresh?_of_filled (by rw [hcleared, hshared]; rfl) hk hl
  have hanswer : step r endpoint t j w₃ = ⟨w₃.shared, w₃.tasks.set j (.lookup id (.done (.ok k)))⟩ := by
    refine step_of_taskStep r endpoint t hj₃ ?_
    simp only [taskStep, lookupStep, hfresh, Option.map_some]
  have hduring : run r endpoint (List.replicate turns (p, t) ++ [(i, t), (i, t)]) (step r endpoint t i w) = w₃ := by
    rw [run, List.foldl_append]
    exact (congrArg (run r endpoint [(i, t), (i, t)]) hw₂).trans hw₃
  refine ⟨step r endpoint t j w₃, List.replicate turns (p, t) ++ [(i, t), (i, t)], [(j, t)], onward_of_still ?_, ?_, ?_⟩
  · intro turn hturn
    simp only [List.mem_cons, List.mem_append, List.mem_replicate, List.not_mem_nil, or_false] at hturn
    rcases hturn with rfl | (⟨-, rfl⟩ | rfl | rfl) | rfl <;> rfl
  · refine ⟨?_, ?_, ?_, ?_⟩
    · rw [hduring, hdone]
    · rw [hduring, hj₃]
    · rw [hduring]
      rfl
    · rw [hanswer]
      exact getElem?_set_of_some hj₃
  · rw [hanswer, hcleared, hshared]
    exact hcount

end

/-- **What a clearing drops.**  A lookup that begins behind a clearing answers from a request that was sent after the
clearing began, or from the last one before, if that was under way.  So the clearing drops all keys exactly when no
request that brings a key for the lookup is under way: with one, it does not even drop them as long as the clock goes on
from any instant, such as the last one of the run. -/
theorem drops_iff (r : Resolver) (endpoint : Nat → Response) {start : World} (hs : start.Idle)
    (schedule : List (Nat × Nat)) {i j : Nat} {id : String}
    (hi : (run r endpoint schedule start).tasks[i]? = some (.clearing .starting))
    (hj : (run r endpoint schedule start).tasks[j]? = some (.lookup id .starting)) :
    let w := run r endpoint schedule start
    let last (n : Nat) : Prop := w.Fetching ∧ n + 1 = w.shared.state.requests
    (∀ k w', AnswersBehind r endpoint w i j id k w' →
      Sourced endpoint (w'.shared.Sent fun n => w.shared.state.requests ≤ n ∨ last n) id k) ∧
    ((∀ k, ¬ Sourced endpoint last id k) → Drops r endpoint w i j id) ∧
    (0 < r.lifetime → ∀ t, DropsFrom r endpoint t w i j id → ∀ k, ¬ Sourced endpoint last id k) := by
  have hguarded : Guarded endpoint (run r endpoint schedule start) := (Guarded.of_idle hs).run r schedule
  generalize run r endpoint schedule start = w at hguarded hi hj
  intro w last
  have htraced (k : SigningKey) (w' : World) (ha : AnswersBehind r endpoint w i j id k w') :
      Sourced endpoint (w'.shared.Sent fun n => w.shared.state.requests ≤ n ∨ last n) id k := by
    obtain ⟨now, during, after, -, -, rfl, hk⟩ := ha
    exact (((Traced.of_clearing hguarded hi hj now).run r during).run r after).answered _ id k hk rfl rfl
  refine ⟨htraced, fun hn k w' ha => ?_, fun hl t hd k hk => ?_⟩
  · obtain ⟨n, set, ⟨hsent, hsince | hlast⟩, hb⟩ := htraced k w' ha
    · exact ⟨n, set, ⟨hsent, hsince⟩, hb⟩
    · exact absurd ⟨n, set, hlast, hb⟩ (hn k)
  · obtain ⟨n, set, ⟨hf, hn⟩, hb, hk⟩ := hk
    obtain ⟨w', during, after, honward, ha, hcount⟩ := exists_answer_of_fetching hguarded hi hj hf hn hb hk hl t
    obtain ⟨n', -, ⟨hsent, hsince⟩, -⟩ := hd k w' t during after honward ha
    rw [hcount] at hsent
    exact Nat.lt_irrefl _ (Nat.lt_of_lt_of_le hsent hsince)

/-- Two lookups of a key, and a clearing. -/
def World.trio : World := ⟨⟨.initial, none⟩, [.lookup "k" .starting, .clearing .starting, .lookup "k" .starting]⟩

theorem idle_trio : World.trio.Idle := by
  refine ⟨rfl, fun t ht => ?_⟩
  simp only [World.trio, List.mem_cons, List.not_mem_nil, or_false] at ht
  rcases ht with rfl | rfl | rfl <;> trivial

/-- The clearing begins after the first lookup has ended. -/
theorem drops_of_done :
    Drops ⟨"u", 1000, 0⟩ (fun _ => .twoUnderOne)
      (run ⟨"u", 1000, 0⟩ (fun _ => .twoUnderOne) (List.replicate 7 (0, 0)) .trio) 1 2 "k" := by
  let r : Resolver := ⟨"u", 1000, 0⟩
  let endpoint (_ : Nat) : Response := .twoUnderOne
  have ht : (run r endpoint (List.replicate 7 (0, 0)) .trio).tasks =
      [.lookup "k" (.done (.ok ⟨"k", .secret [2]⟩)), .clearing .starting, .lookup "k" .starting] := by cbv
  have hj : (run r endpoint (List.replicate 7 (0, 0)) .trio).tasks[2]? = some (.lookup "k" .starting) := by
    rw [ht]
    rfl
  obtain ⟨-, hdrops, -⟩ := drops_iff r endpoint idle_trio (List.replicate 7 (0, 0)) (i := 1) (by rw [ht]; rfl) hj
  refine hdrops fun k hk => ?_
  obtain ⟨-, -, ⟨⟨p, id, hp⟩, -⟩, -⟩ := hk
  rw [ht] at hp
  rcases p with _ | _ | _ | p <;> rcases hp with ⟨n, hp⟩ | ⟨keys, hp⟩ <;> cases hp

/-- The clearing begins while the first lookup waits for a response, and the second lookup answers the key that the
response brings: no other request was sent. -/
theorem not_drops_of_asking :
    (run ⟨"u", 1000, 0⟩ (fun _ => .twoUnderOne) (List.replicate 4 (0, 0)) .trio).tasks =
      [.lookup "k" (.asking 0), .clearing .starting, .lookup "k" .starting] ∧
    ¬ DropsFrom ⟨"u", 1000, 0⟩ (fun _ => .twoUnderOne) 0
      (run ⟨"u", 1000, 0⟩ (fun _ => .twoUnderOne) (List.replicate 4 (0, 0)) .trio) 1 2 "k" := by
  refine ⟨by cbv, fun h => ?_⟩
  -- The first lookup fills the cache and leaves, the clearing ends, and the second lookup begins.
  obtain ⟨n, set, ⟨hsent, hsince⟩, -⟩ := h ⟨"k", .secret [2]⟩ _ 0 [(0, 0), (0, 0), (0, 0), (1, 0), (1, 0)] [(2, 0)]
    (onward_of_still (by decide)) ⟨by cbv, by cbv, rfl, by cbv⟩
  exact Nat.lt_irrefl _ (Nat.lt_of_lt_of_le hsent (Nat.le_trans (Nat.le_of_eq (by cbv)) hsince))

end DatastoreAccess.Interleaving
