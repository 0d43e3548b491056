import DatastoreAccess.Proofs.Keys.Trace
/-!
# Proofs.Keys.Mirror — the cache holds the latest key set, nothing else

Of the fetches since the last clearing, the latest one that brought a key set decides what the cache holds (`Latest`,
`Mirrors`).  Failed fetches, hits and misses change nothing.  So a key that is answered stands in that key set, and a key
that has been withdrawn is not answered until it is published again (`cache_mirrors_latest`).
-/
namespace DatastoreAccess.Resolver

variable {r : Resolver} {endpoint : Nat → KeyEndpoint.Response}

/-- The last fetch since the last clearing that brought a key set brought `set`, and was answered at `t`. -/
def Latest (endpoint : Nat → KeyEndpoint.Response) (past : List Event) (set : KeySet) (t : Nat) : Prop :=
  ∃ before e after, past = before ++ e :: after ∧ e.Brings endpoint set ∧ e.call.moments.finish = t ∧
    ∀ x ∈ after, ¬ x.Clears ∧ ∀ other, ¬ x.Brings endpoint other

/-- A cache holds, for each id, the key that the latest key set publishes, under the key's own id and with the time of
that fetch; without a fetch it is empty. -/
structure Mirrors (endpoint : Nat → KeyEndpoint.Response) (past : List Event) (c : KeyCache) : Prop where
  held : ∀ set t, Latest endpoint past set t → ∀ id e,
    c.held? id = some e ↔ set.Publishes id e.key ∧ e.fetchedAt = t
  empty : (∀ set t, ¬ Latest endpoint past set t) → c.entries = []

/-! ## The latest fetch -/

theorem Event.Brings.unique {e : Event} {set set' : KeySet} (h : e.Brings endpoint set) (h' : e.Brings endpoint set') :
    set = set' := by
  obtain ⟨n, hn, hb⟩ := h
  obtain ⟨n', hn', hb'⟩ := h'
  cases hn.symm.trans hn'
  exact KeyEndpoint.Response.Brings.unique hb hb'

theorem not_latest_nil {set : KeySet} {t : Nat} : ¬ Latest endpoint [] set t := by
  rintro ⟨before, e, after, h, -⟩
  cases before <;> cases h

/-- One more event: it is the latest fetch itself, or it leaves the latest fetch as it was. -/
theorem latest_snoc {past : List Event} {x : Event} {set : KeySet} {t : Nat} :
    Latest endpoint (past ++ [x]) set t ↔
      (x.Brings endpoint set ∧ x.call.moments.finish = t) ∨
        (¬ x.Clears ∧ ∀ other, ¬ x.Brings endpoint other) ∧ Latest endpoint past set t := by
  constructor
  · rintro ⟨before, e, after, hp, hb, ht, hq⟩
    rcases snoc_eq_append_cons.1 hp with ⟨rfl, rfl, rfl⟩ | ⟨between, rfl, rfl⟩
    · exact .inl ⟨hb, ht⟩
    · have hx : x ∈ between ++ [x] := List.mem_append_right _ (List.mem_singleton_self x)
      refine .inr ⟨hq x hx, before, e, between, rfl, hb, ht, fun y hy => ?_⟩
      exact hq y (List.mem_append_left _ hy)
  · rintro (⟨hb, ht⟩ | ⟨hx, before, e, after, rfl, hb, ht, hq⟩)
    · exact ⟨past, x, [], rfl, hb, ht, fun y hy => absurd hy List.not_mem_nil⟩
    · refine ⟨before, e, after ++ [x], by simp, hb, ht, fun y hy => ?_⟩
      rcases List.mem_append.1 hy with hy | hy
      · exact hq y hy
      · rw [List.mem_singleton.1 hy]
        exact hx

/-- Every other fetch that brought a key set lies before the latest one. -/
theorem Latest.later {early late : List Event} {x : Event} {set old : KeySet} {t : Nat}
    (h : Latest endpoint (early ++ x :: late) set t) (hx : x.Brings endpoint old) :
    old = set ∨ ∃ y ∈ late, y.Brings endpoint set := by
  obtain ⟨before, e, after, hp, hb, -, hq⟩ := h
  -- `x` is the latest fetch `e`, or stands before it; behind it nothing brings a key set.
  rcases List.append_eq_append_iff.1 hp with ⟨as, rfl, hs⟩ | ⟨bs, rfl, hs⟩
  · cases as with
    | nil =>
      obtain ⟨rfl, -⟩ := List.cons_eq_cons.1 hs
      exact .inl (hx.unique hb)
    | cons a as =>
      obtain ⟨-, rfl⟩ := List.cons_eq_cons.1 hs
      exact .inr ⟨e, List.mem_append_right _ List.mem_cons_self, hb⟩
  · cases bs with
    | nil =>
      obtain ⟨rfl, -⟩ := List.cons_eq_cons.1 hs
      exact .inl (hx.unique hb)
    | cons b bs =>
      obtain ⟨-, rfl⟩ := List.cons_eq_cons.1 hs
      exact absurd hx ((hq x (List.mem_append_right _ List.mem_cons_self)).2 old)

/-! ## What a call keeps -/

theorem Event.not_brings_of_none {c : Call} {a : Answer} (set : KeySet) :
    ¬ (Event.mk c a none).Brings endpoint set := by
  rintro ⟨n, hn, -⟩
  cases hn

theorem Mirrors.initial : Mirrors endpoint [] KeyCache.empty where
  held _ _ h := absurd h not_latest_nil
  empty _ := rfl

theorem Mirrors.keep {past : List Event} {x : Event} {c c' : KeyCache} (h : Mirrors endpoint past c)
    (hc : ¬ x.Clears) (hb : ∀ set, ¬ x.Brings endpoint set) (he : c'.entries = c.entries) :
    Mirrors endpoint (past ++ [x]) c' := by
  have hl (set : KeySet) (t : Nat) : Latest endpoint (past ++ [x]) set t ↔ Latest endpoint past set t := by
    rw [latest_snoc]
    simp [hc, hb]
  have hh (id : String) : c'.held? id = c.held? id := by rw [KeyCache.held?, KeyCache.held?, he]
  constructor
  · intro set t hset id e
    rw [hh]
    exact h.held set t ((hl set t).1 hset) id e
  · intro hn
    rw [he]
    exact h.empty fun set t hset => hn set t ((hl set t).2 hset)

theorem Mirrors.renew {past : List Event} {x : Event} {c : KeyCache} {set : KeySet}
    (hb : x.Brings endpoint set) : Mirrors endpoint (past ++ [x]) (c.replace set.usable x.call.moments.finish) := by
  have hx : Latest endpoint (past ++ [x]) set x.call.moments.finish := latest_snoc.2 (.inl ⟨hb, rfl⟩)
  constructor
  · intro set' t hset id e
    have hs : set' = set ∧ t = x.call.moments.finish := by
      rcases latest_snoc.1 hset with ⟨hb', ht⟩ | ⟨⟨-, hq⟩, -⟩
      · exact ⟨hb'.unique hb, ht.symm⟩
      · exact absurd hb (hq set)
    obtain ⟨rfl, rfl⟩ := hs
    rw [KeyCache.held?_replace, ← KeySet.find?_eq_some, Option.map_eq_some_iff]
    constructor
    · rintro ⟨k, hk, rfl⟩
      exact ⟨hk, rfl⟩
    · rintro ⟨hk, ht⟩
      exact ⟨e.key, hk, by rw [← ht]⟩
  · intro hn
    exact absurd hx (hn set _)

theorem Mirrors.step {past : List Event} {c : Call} {s s' : State} {answer : Answer} {request? : Option Nat}
    (h : Mirrors endpoint past s.cache) (hs : Step r endpoint c s answer request? s') :
    Mirrors endpoint (past ++ [⟨c, answer, request?⟩]) s'.cache := by
  cases hs with
  | cleared hc =>
    have hn (set : KeySet) (t : Nat) : ¬ Latest endpoint (past ++ [⟨c, none, none⟩]) set t := by
      rw [latest_snoc]
      rintro (⟨hb, -⟩ | ⟨⟨hx, -⟩, -⟩)
      · exact Event.not_brings_of_none set hb
      · exact hx hc
    exact ⟨fun set t hset => absurd hset (hn set t), fun _ => rfl⟩
  | unreadable hc hid => exact h.keep hc Event.not_brings_of_none rfl
  | lookedUp hid look =>
    have hc : c.request ≠ .clear := Request.ne_clear_of_id hid
    -- Only the last course writes entries.
    cases look with
    | fresh look found => exact h.keep hc Event.not_brings_of_none rfl
    | floored missed active => exact h.keep hc Event.not_brings_of_none rfl
    | failed missed idle failure =>
      refine h.keep hc (fun set hb => ?_) rfl
      obtain ⟨n, hn, hb⟩ := hb
      cases hn
      exact KeyEndpoint.Response.not_brings failure set hb
    | filled missed idle success => exact Mirrors.renew ⟨s.requests, rfl, success⟩

/-- What a cache holds comes from the latest fetch. -/
theorem Mirrors.fetched {past : List Event} {c : KeyCache} (h : Mirrors endpoint past c) {id : String}
    {e : KeyCache.Entry} (he : c.held? id = some e) :
    ∃ set, Latest endpoint past set e.fetchedAt ∧ set.Publishes id e.key := by
  by_cases hl : ∃ set t, Latest endpoint past set t
  · obtain ⟨set, t, hl⟩ := hl
    obtain ⟨hp, rfl⟩ := (h.held set t hl id e).1 he
    exact ⟨set, hl, hp⟩
  · have hn : c.entries = [] := h.empty fun set t hset => hl ⟨set, t, hset⟩
    rw [KeyCache.held?, hn] at he
    cases he

theorem Mirrors.published {past : List Event} {c : KeyCache} (h : Mirrors endpoint past c) {id : String}
    {k : SigningKey} (hk : c.stale? id = some k) :
    ∃ set t, Latest endpoint past set t ∧ set.Publishes id k := by
  obtain ⟨e, he, rfl⟩ := Option.map_eq_some_iff.1 hk
  obtain ⟨set, hl, hp⟩ := h.fetched he
  exact ⟨set, e.fetchedAt, hl, hp⟩

theorem Step.stale?_of_ok {c : Call} {s s' : State} {k : SigningKey} {request? : Option Nat} {id : String}
    (hs : Step r endpoint c s (some (.ok k)) request? s') (hid : c.request.id? = some id) :
    s'.cache.stale? id = some k := by
  generalize ha : some (Except.ok k) = answer at hs
  cases hs with
  | cleared hc => cases ha
  | unreadable hc hid' => cases ha
  | @lookedUp id' a _ _ hid' look =>
    cases hid.symm.trans hid'
    cases a with
    | error e => cases ha
    | ok k' =>
      cases ha
      exact look.stale?_of_ok

theorem Step.entries_of_failure {c : Call} {s s' : State} {answer : Answer} {n : Nat}
    (hs : Step r endpoint c s answer (some n) s') (hb : ∀ set, ¬ (endpoint n).Brings set) :
    s'.cache.entries = s.cache.entries := by
  cases hs with
  | lookedUp hid look =>
    cases look with
    | failed missed idle failure => rfl
    | @filled set missed idle success => exact absurd success (hb set)

/-! ## Runs -/

theorem mirrors_run (r : Resolver) (endpoint : Nat → KeyEndpoint.Response) (calls : List Call) :
    Mirrors endpoint (r.trace endpoint calls .initial) (r.run endpoint calls .initial).2.cache :=
  trace_induction r endpoint .initial (motive := fun past s => Mirrors endpoint past s.cache) .initial
    (fun _ _ _ _ _ _ h hs => h.step hs) calls

/-- What a call after others does to the cache, and which keys it answers. -/
structure Faithful (r : Resolver) (endpoint : Nat → KeyEndpoint.Response) (calls : List Call) (c : Call)
    (s : State) : Prop where
  unchanged : ∀ n, (r.event endpoint c s).request? = some n → (∀ set, ¬ (endpoint n).Brings set) →
    (r.perform endpoint c s).2.cache.entries = s.cache.entries
  answered : ∀ id k, c.request.id? = some id → (r.perform endpoint c s).1 = some (.ok k) →
    ∃ set t, Latest endpoint (r.trace endpoint (calls ++ [c]) .initial) set t ∧ set.Publishes id k
  withdrawn : ∀ id k, c.request.id? = some id → (r.perform endpoint c s).1 = some (.ok k) →
    ∀ early x late old, r.trace endpoint (calls ++ [c]) .initial = early ++ x :: late → x.Brings endpoint old →
      ¬ old.Publishes id k → ∃ y ∈ late, ∃ set, y.Brings endpoint set ∧ set.Publishes id k

/-- **The cache is the latest key set.**  After every sequence of calls it holds what the latest successful fetch since
the last clearing published, and every key that is answered stands there. -/
theorem cache_mirrors_latest (r : Resolver) (endpoint : Nat → KeyEndpoint.Response) (calls : List Call) :
    Mirrors endpoint (r.trace endpoint calls .initial) (r.run endpoint calls .initial).2.cache ∧
    ∀ c, Faithful r endpoint calls c (r.run endpoint calls .initial).2 := by
  have answered (c : Call) (id : String) (k : SigningKey) (hid : c.request.id? = some id)
      (hk : (r.perform endpoint c (r.run endpoint calls .initial).2).1 = some (.ok k)) :
      ∃ set t, Latest endpoint (r.trace endpoint (calls ++ [c]) .initial) set t ∧ set.Publishes id k := by
    have hm := mirrors_run r endpoint (calls ++ [c])
    have hs := perform_step r endpoint c (r.run endpoint calls .initial).2
    rw [run_append] at hm
    change Step r endpoint c _ (r.perform endpoint c _).1 _ _ at hs
    rw [hk] at hs
    exact hm.published (hs.stale?_of_ok hid)
  refine ⟨mirrors_run r endpoint calls, fun c => ⟨?_, answered c, ?_⟩⟩
  · intro n hn hb
    have hs := perform_step r endpoint c (r.run endpoint calls .initial).2
    rw [hn] at hs
    exact hs.entries_of_failure hb
  · intro id k hid hk early x late old hp hx ho
    obtain ⟨set, t, hl, hset⟩ := answered c id k hid hk
    rw [hp] at hl
    rcases hl.later hx with rfl | ⟨y, hy, hb⟩
    · exact absurd hset ho
    · exact ⟨y, hy, set, hb, hset⟩

end DatastoreAccess.Resolver
