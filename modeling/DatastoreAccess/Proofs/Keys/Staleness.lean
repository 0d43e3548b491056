import DatastoreAccess.Proofs.Keys.Mirror
import DatastoreAccess.Proofs.Keys.Pacing
/-!
# Proofs.Keys.Staleness — how old a key can be

A key that a lookup answers is fresh, or the floor of the last attempt is up, or that lookup fetched it
(`keyFor_served`).  The last attempt was made since the key was fetched (`Recalls`).  So an expired key is served for no
longer than the floor behind its expiry, unless a fetch was attempted after the expiry, and failed: that puts the floor
up again and leaves the key where it is, and the next failure does the same (`timely_iff`, `age_in_outage`).
-/
namespace DatastoreAccess.Resolver

variable {r : Resolver} {endpoint : Nat → KeyEndpoint.Response}

/-! ## When a key is answered -/

/-- The last reading of the clock before a lookup answers a key. -/
def lastReading (r : Resolver) (m : Moments) (id : String) (c : KeyCache) : Nat :=
  if (c.fresh? r.lifetime m.first id).isSome then m.first
  else if (c.fresh? r.lifetime m.again id).isSome then m.again
  else if c.floorActive r.refreshFloor m.floor then m.floor
  else m.finish

/-- The instant from which on the keys of a fetch are expired. -/
def expiry (r : Resolver) (x : Event) : Nat := x.call.moments.finish + r.lifetime

/-- A fetch was attempted after the keys of `x` expired. -/
def LateAttempt (r : Resolver) (x : Event) (after : List Event) : Prop :=
  ∃ y ∈ after, y.request? ≠ none ∧ r.expiry x ≤ y.start

/-- A key of the fetch `x`, answered at `t` by the last event of `x :: after`, is as old as it may be: the lifetime and
the floor bound its age, and if it is expired and kept, then the floor is up of an attempt that was made before. -/
structure Timely (r : Resolver) (x : Event) (after : List Event) (t : Nat) : Prop where
  bounded : t ≤ x.call.moments.finish + (r.lifetime + r.refreshFloor)
  graced : after ≠ [] → r.expiry x ≤ t → ∃ y ∈ x :: after, y.request? ≠ none ∧ (y = x ∨ y.start < r.expiry x) ∧
    t < y.start + r.refreshFloor

theorem lastReading_mem (r : Resolver) (m : Moments) (id : String) (c : KeyCache) :
    r.lastReading m id c ∈ m.toList := by
  unfold lastReading
  split
  · simp [Moments.toList]
  · split
    · simp [Moments.toList]
    · split <;> simp [Moments.toList]

theorem held?_of_fresh? {c : KeyCache} {lifetime now : Nat} {id : String} {k : SigningKey}
    (h : c.fresh? lifetime now id = some k) :
    ∃ e, c.held? id = some e ∧ e.key = k ∧ now < e.fetchedAt + lifetime := by
  obtain ⟨e, he, rfl⟩ := Option.map_eq_some_iff.1 h
  obtain ⟨he, hx⟩ := Option.filter_eq_some_iff.1 he
  have hx : now - e.fetchedAt < lifetime := by simpa [KeyCache.Entry.expired] using hx
  exact ⟨e, he, rfl, by omega⟩

theorem lastFetch_of_floorActive {c : KeyCache} {floor now : Nat} (h : c.floorActive floor now = true) :
    ∃ last, c.lastFetch = some last ∧ now < last + floor := by
  obtain ⟨last, hl, h⟩ := (Option.any_eq_true _ _).1 h
  have h : now - last < floor := of_decide_eq_true h
  exact ⟨last, hl, by omega⟩

/-- A key that a lookup answers is kept, and it is fresh or the floor is up, or the lookup has just fetched it. -/
theorem keyFor_served {m : Moments} {id : String} {s : State} {k : SigningKey}
    (h : (r.keyFor endpoint m id s).1 = .ok k) :
    ((r.keyFor endpoint m id s).2 = s ∧ ∃ e, s.cache.held? id = some e ∧ e.key = k ∧
      (r.lastReading m id s.cache < e.fetchedAt + r.lifetime ∨
        ∃ last, s.cache.lastFetch = some last ∧ r.lastReading m id s.cache < last + r.refreshFloor)) ∨
    ((r.keyFor endpoint m id s).2.requests = s.requests + 1 ∧ r.lastReading m id s.cache = m.finish ∧
      ∃ set, (endpoint s.requests).Brings set ∧ set.Publishes id k) := by
  cases hfirst : s.cache.fresh? r.lifetime m.first id with
  | some k' =>
    obtain ⟨e, he, hk, hlt⟩ := held?_of_fresh? hfirst
    simp only [keyFor, hfirst, lastReading, Option.isSome_some, if_true] at h ⊢
    cases h
    exact .inl ⟨trivial, e, he, hk, .inl hlt⟩
  | none =>
    cases hagain : s.cache.fresh? r.lifetime m.again id with
    | some k' =>
      obtain ⟨e, he, hk, hlt⟩ := held?_of_fresh? hagain
      simp only [keyFor, hfirst, hagain, lastReading, Option.isSome_some, Option.isSome_none, if_true,
        Bool.false_eq_true, if_false] at h ⊢
      cases h
      exact .inl ⟨trivial, e, he, hk, .inl hlt⟩
    | none =>
      cases hfloor : s.cache.floorActive r.refreshFloor m.floor with
      | true =>
        simp only [keyFor, hfirst, hagain, hfloor, lastReading, Option.isSome_none, if_true, Bool.false_eq_true,
          if_false] at h ⊢
        obtain ⟨e, he, hk⟩ := Option.map_eq_some_iff.1 (answerOf_eq_ok.1 h)
        exact .inl ⟨trivial, e, he, hk, .inr (lastFetch_of_floorActive hfloor)⟩
      | false =>
        simp only [keyFor, hfirst, hagain, hfloor, lastReading, Option.isSome_none, Bool.false_eq_true, if_false,
          fetch] at h ⊢
        cases hkeys : (endpoint s.requests).keys with
        | error e =>
          rw [hkeys] at h
          cases h
        | ok keys =>
          obtain ⟨set, hb, rfl⟩ := KeyEndpoint.Response.keys_eq_ok.1 hkeys
          rw [hkeys] at h
          have hk := answerOf_eq_ok.1 h
          rw [KeyCache.stale?_replace] at hk
          exact .inr ⟨rfl, trivial, set, hb, KeySet.find?_eq_some.1 hk⟩

/-! ## The last attempt -/

/-- The attempt that is kept in mind is the last one. -/
def Recalls (past : List Event) (c : KeyCache) : Prop :=
  ∀ last, c.lastFetch = some last → ∃ before y after, past = before ++ y :: after ∧ y.request? ≠ none ∧
    y.start = last ∧ ∀ z ∈ after, z.request? = none

theorem Recalls.step {past : List Event} {c : Call} {s s' : State} {answer : Answer} {request? : Option Nat}
    (h : Recalls past s.cache) (hs : Step r endpoint c s answer request? s') :
    Recalls (past ++ [⟨c, answer, request?⟩]) s'.cache := by
  intro last hl
  cases request? with
  | some n =>
    refine ⟨past, _, [], rfl, Option.some_ne_none n, ?_, fun z hz => absurd hz List.not_mem_nil⟩
    exact Option.some.inj (hs.of_request.2.2.symm.trans hl)
  | none =>
    by_cases hc : c.request = .clear
    · cases hs with
      | cleared hc => cases hl
      | unreadable hn hid => exact absurd hc hn
      | lookedUp hid look => exact absurd hc (Request.ne_clear_of_id hid)
    · rw [hs.eq_of_quiet hc] at hl
      obtain ⟨before, y, after, rfl, hy, hyl, hq⟩ := h last hl
      refine ⟨before, y, after ++ [⟨c, answer, none⟩], by simp, hy, hyl, fun z hz => ?_⟩
      rcases List.mem_append.1 hz with hz | hz
      · exact hq z hz
      · rw [List.mem_singleton.1 hz]

theorem recalls_run (r : Resolver) (endpoint : Nat → KeyEndpoint.Response) (calls : List Call) :
    Recalls (r.trace endpoint calls .initial) (r.run endpoint calls .initial).2.cache :=
  trace_induction r endpoint .initial (motive := fun past s => Recalls past s.cache) (fun _ h => by cases h)
    (fun _ _ _ _ _ _ h hs => h.step hs) calls

/-- Behind the last attempt lies no attempt. -/
theorem Recalls.mem {before after : List Event} {x : Event} {c : KeyCache} {last : Nat}
    (h : Recalls (before ++ x :: after) c) (hl : c.lastFetch = some last) (hx : x.request? ≠ none) :
    ∃ y ∈ x :: after, y.request? ≠ none ∧ y.start = last := by
  obtain ⟨early, y, late, hp, hy, hyl, hq⟩ := h last hl
  refine ⟨y, ?_, hy, hyl⟩
  rcases List.append_eq_append_iff.1 hp with ⟨as, -, hs⟩ | ⟨bs, -, hs⟩
  · rw [hs]
    exact List.mem_append_right _ List.mem_cons_self
  · cases bs with
    | nil =>
      obtain ⟨rfl, -⟩ := List.cons_eq_cons.1 hs
      exact List.mem_cons_self
    | cons b bs =>
      obtain ⟨-, rfl⟩ := List.cons_eq_cons.1 hs
      exact absurd (hq x (List.mem_append_right _ List.mem_cons_self)) hx

/-! ## The order of attempts -/

theorem Chronological.start_le_finish {calls : List Call} (h : Chronological calls) {c : Call} (hc : c ∈ calls) :
    c.moments.start ≤ c.moments.finish := by
  have hp := (List.pairwise_flatMap.1 h).1 c hc
  simp only [Moments.toList, List.pairwise_cons] at hp
  exact hp.2.2.2.1 _ List.mem_cons_self

/-- Clocks are read in the order of events. -/
theorem Chronological.start_le_reading {calls : List Call} (hc : Chronological calls) {s : State}
    {before after : List Event} {e d : Event} (ht : r.trace endpoint calls s = before ++ e :: after) (hd : d ∈ after)
    {t : Nat} (hr : t ∈ d.call.moments.toList) : e.start ≤ t := by
  rw [← map_call_trace r endpoint calls s, ht, List.map_append, List.map_cons] at hc
  have hp := (List.pairwise_cons.1 (List.pairwise_append.1 (List.pairwise_flatMap.1 hc).2).2.1).1 d.call
    (List.mem_map_of_mem hd)
  exact hp _ (by simp [Event.start, Moments.toList]) t hr

/-- Up to a clearing, an attempt starts the floor behind every attempt before it. -/
theorem start_add_floor_le_of_mem {calls : List Call} (hc : Chronological calls) {before early late : List Event}
    {x y z : Event} (ht : r.trace endpoint calls .initial = before ++ x :: (early ++ z :: late))
    (hq : ∀ w ∈ early, ¬ w.Clears) (hy : y ∈ x :: early) (hyr : y.request? ≠ none) (hzr : z.request? ≠ none) :
    y.start + r.refreshFloor ≤ z.start := by
  obtain ⟨as, bs, hs⟩ := List.append_of_mem hy
  have hp : r.trace endpoint calls .initial = (before ++ as) ++ y :: bs ++ z :: late := by
    rw [ht, ← List.cons_append, hs]
    simp
  refine start_add_floor_le hc hp hyr hzr fun w hw => ?_
  cases as with
  | nil =>
    obtain ⟨-, rfl⟩ := List.cons_eq_cons.1 hs
    exact hq w hw
  | cons a as =>
    obtain ⟨-, rfl⟩ := List.cons_eq_cons.1 hs
    exact hq w (List.mem_append_right _ (List.mem_cons_of_mem _ hw))

/-! ## Age -/

section
variable {x : Event} {after : List Event} {t : Nat}

theorem timely_of_fetched (ht : t = x.call.moments.finish) : Timely r x [] t :=
  ⟨by omega, fun h => absurd rfl h⟩

theorem timely_of_fresh (ht : t < r.expiry x) : Timely r x after t := by
  have hb : t < x.call.moments.finish + r.lifetime := ht
  exact ⟨by omega, fun _ he => absurd he (Nat.not_le.2 ht)⟩

theorem timely_of_floored {y : Event} (hx : x.start ≤ x.call.moments.finish) (hy : y ∈ x :: after)
    (hr : y.request? ≠ none) (hn : ¬ LateAttempt r x after) (ht : t < y.start + r.refreshFloor) :
    Timely r x after t := by
  have early : y = x ∨ y.start < r.expiry x := by
    rcases List.mem_cons.1 hy with rfl | hy
    · exact .inl rfl
    · exact .inr (Nat.lt_of_not_le fun he => hn ⟨y, hy, hr, he⟩)
  refine ⟨?_, fun _ _ => ⟨y, hy, hr, early, ht⟩⟩
  rcases early with rfl | hlt
  · omega
  · have hlt : y.start < x.call.moments.finish + r.lifetime := hlt
    omega

end

/-- The floor of an attempt that failed after the expiry is not the floor of one that was made before. -/
theorem not_timely_of_lateAttempt {calls : List Call} (hc : Chronological calls) {before after : List Event}
    {x w : Event} (ht : r.trace endpoint calls .initial = before ++ x :: (after ++ [w])) (hw : w.request? = none)
    (hq : ∀ y ∈ after, ¬ y.Clears) {t : Nat} (hr : t ∈ w.call.moments.toList) (hl : LateAttempt r x (after ++ [w])) :
    ¬ Timely r x (after ++ [w]) t := by
  intro h
  obtain ⟨z, hz, hzr, hlate⟩ := hl
  have hz : z ∈ after := (List.mem_append.1 hz).resolve_right fun hz => hzr (List.mem_singleton.1 hz ▸ hw)
  obtain ⟨early, late, rfl⟩ := List.append_of_mem hz
  have hp : r.trace endpoint calls .initial = (before ++ x :: early) ++ z :: (late ++ [w]) := by simp [ht]
  have hzt : z.start ≤ t := hc.start_le_reading hp (List.mem_append_right _ (List.mem_singleton_self w)) hr
  have paced (y : Event) (hy : y ∈ x :: early) (hyr : y.request? ≠ none) : y.start + r.refreshFloor ≤ z.start := by
    rw [List.append_assoc, List.cons_append] at hp
    exact start_add_floor_le_of_mem hc hp (fun v hv => hq v (List.mem_append_left _ hv)) hy hyr hzr
  obtain ⟨y, hy, hyr, rfl | hbefore, hup⟩ := h.graced (by simp) (hlate.trans hzt)
  · have := paced y List.mem_cons_self hyr
    omega
  · -- Before `z`, the floor of `y` is over when `z` starts; from `z` on, `y` is not made before the expiry.
    have hy : y ∈ (x :: early) ++ z :: (late ++ [w]) := by simpa using hy
    rcases List.mem_append.1 hy with hy | hy
    · have := paced y hy hyr
      omega
    · have hzy : z.start ≤ y.start := by
        rcases List.mem_cons.1 hy with rfl | hy
        · exact Nat.le_refl _
        · exact hc.start_le_reading hp hy (by simp [Event.start, Moments.toList])
      omega

theorem keyFor_of_answered {c : Call} {s : State} {id : String} {k : SigningKey} (hid : c.request.id? = some id)
    (hk : (r.perform endpoint c s).1 = some (.ok k)) : (r.keyFor endpoint c.moments id s).1 = .ok k := by
  rw [perform_of_id hid] at hk
  cases ha : (r.keyFor endpoint c.moments id s).1 with
  | error e =>
    rw [ha] at hk
    cases hk
  | ok k' =>
    rw [ha] at hk
    cases hk
    rfl

/-- **When the age of a key is bounded.**  Under a clock that does not go back, every key that a call answers was
published by the latest fetch that brought a key set, and no clearing lies between.  The key is as old as it may be
exactly when no fetch was attempted since it expired. -/
theorem timely_iff (r : Resolver) (endpoint : Nat → KeyEndpoint.Response) (calls : List Call) (c : Call)
    (hc : Chronological (calls ++ [c])) {id : String} {k : SigningKey} (hid : c.request.id? = some id)
    (hk : (r.perform endpoint c (r.run endpoint calls .initial).2).1 = some (.ok k)) :
    ∃ before x after set, r.trace endpoint (calls ++ [c]) .initial = before ++ x :: after ∧
      x.Brings endpoint set ∧ set.Publishes id k ∧ (∀ y ∈ after, ¬ y.Clears ∧ ∀ other, ¬ y.Brings endpoint other) ∧
      (Timely r x after (r.lastReading c.moments id (r.run endpoint calls .initial).2.cache) ↔
        ¬ LateAttempt r x after) := by
  generalize hs : (r.run endpoint calls .initial).2 = s at hk ⊢
  have hstate : (r.perform endpoint c s).2 = (r.keyFor endpoint c.moments id s).2 := by rw [perform_of_id hid]
  have htrace : r.trace endpoint (calls ++ [c]) .initial =
      r.trace endpoint calls .initial ++ [r.event endpoint c s] := by
    rw [trace_append, hs]
    rfl
  have hclears : ¬ (r.event endpoint c s).Clears := Request.ne_clear_of_id hid
  rcases keyFor_served (keyFor_of_answered hid hk) with ⟨hkept, e, he, rfl, hup⟩ | ⟨hcount, ht, set, hb, hp⟩
  · have hquiet : (r.event endpoint c s).request? = none := if_pos (by rw [hstate, hkept])
    have hmirrors := mirrors_run r endpoint calls
    have hrecalls := recalls_run r endpoint calls
    rw [hs] at hmirrors hrecalls
    obtain ⟨set, ⟨before, x, after, hpast, hx, hfinish, hq⟩, hp⟩ := hmirrors.fetched he
    have hpos : r.trace endpoint (calls ++ [c]) .initial = before ++ x :: (after ++ [r.event endpoint c s]) := by
      rw [htrace, hpast]
      simp
    refine ⟨before, x, after ++ [r.event endpoint c s], set, hpos, hx, hp, fun y hy => ?_, fun ht hl => ?_,
      fun hn => ?_⟩
    · rcases List.mem_append.1 hy with hy | hy
      · exact hq y hy
      · rw [List.mem_singleton.1 hy]
        refine ⟨hclears, fun other ⟨n, hn, _⟩ => ?_⟩
        cases hquiet.symm.trans hn
    · exact not_timely_of_lateAttempt hc hpos hquiet (fun y hy => (hq y hy).1) (r.lastReading_mem _ _ _) hl ht
    · rcases hup with hfresh | ⟨last, hlast, hfloor⟩
      · rw [← hfinish] at hfresh
        exact timely_of_fresh hfresh
      · rw [hpast] at hrecalls
        obtain ⟨n, hxn, -⟩ := hx
        obtain ⟨y, hy, hyr, rfl⟩ := hrecalls.mem hlast (hxn ▸ Option.some_ne_none n)
        have hxc : x.call ∈ calls ++ [c] := by
          rw [← map_call_trace r endpoint (calls ++ [c]) .initial, hpos]
          exact List.mem_map_of_mem (List.mem_append_right _ List.mem_cons_self)
        have hy : y ∈ x :: (after ++ [r.event endpoint c s]) := List.mem_append_left [r.event endpoint c s] hy
        exact timely_of_floored (hc.start_le_finish hxc) hy hyr hn hfloor
  · have hasked : (r.event endpoint c s).request? = some s.requests :=
      if_neg (by rw [hstate, hcount]; exact Nat.succ_ne_self _)
    refine ⟨r.trace endpoint calls .initial, r.event endpoint c s, [], set, htrace, ⟨s.requests, hasked, hb⟩, hp,
      fun y hy => absurd hy List.not_mem_nil, fun _ => ?_, fun _ => timely_of_fetched ht⟩
    rintro ⟨y, hy, -⟩
    exact absurd hy List.not_mem_nil

/-- Only the first request is answered. -/
def answeredOnce : Nat → KeyEndpoint.Response
  | 0 => .twoUnderOne
  | _ + 1 => .unanswered

/-- With the default lifetime and floor: a request for an unknown key fails a second before a key expires, and the key
serves for one more second. -/
theorem timely_in_grace :
    Timely ⟨"u", defaultLifetime, defaultRefreshFloor⟩ ⟨⟨.keyFor "k", .still 0⟩, some (.ok ⟨"k", .secret [2]⟩), some 0⟩
      [⟨⟨.keyFor "x", .still 2999000⟩, some (.error (.keyResolution .fetchFailed)), some 1⟩,
        ⟨⟨.keyFor "k", .still 3001000⟩, some (.ok ⟨"k", .secret [2]⟩), none⟩] 3001000 := by
  let r : Resolver := ⟨"u", defaultLifetime, defaultRefreshFloor⟩
  let calls : List Call := [⟨.keyFor "k", .still 0⟩, ⟨.keyFor "x", .still 2999000⟩]
  let c : Call := ⟨.keyFor "k", .still 3001000⟩
  have hk : (r.perform answeredOnce c (r.run answeredOnce calls .initial).2).1 = some (.ok ⟨"k", .secret [2]⟩) := by cbv
  have hlast : r.lastReading c.moments "k" (r.run answeredOnce calls .initial).2.cache = 3001000 := by cbv
  have htrace : r.trace answeredOnce (calls ++ [c]) .initial =
      [⟨⟨.keyFor "k", .still 0⟩, some (.ok ⟨"k", .secret [2]⟩), some 0⟩,
        ⟨⟨.keyFor "x", .still 2999000⟩, some (.error (.keyResolution .fetchFailed)), some 1⟩,
        ⟨⟨.keyFor "k", .still 3001000⟩, some (.ok ⟨"k", .secret [2]⟩), none⟩] := by cbv
  obtain ⟨before, x, after, set, ht, ⟨n, hn, hb⟩, -, -, htimely⟩ := timely_iff r answeredOnce calls c (by decide) rfl hk
  rw [hlast] at htimely
  rw [htrace] at ht
  -- Of the three events, only the first one has a request that was answered.
  rcases before with _ | ⟨_, _ | ⟨_, _ | ⟨_, before⟩⟩⟩
  · obtain ⟨rfl, rfl⟩ := List.cons_eq_cons.1 ht
    refine htimely.2 ?_
    rintro ⟨y, hy, hasked, hlate⟩
    rcases List.mem_pair.1 hy with rfl | rfl
    · exact absurd hlate (by decide : ¬ 0 + 3000000 ≤ 2999000)
    · exact hasked rfl
  · obtain ⟨-, rfl, -⟩ := by simpa using ht
    cases hn
    obtain ⟨status, body, h, -⟩ := hb
    cases h
  · obtain ⟨-, -, rfl, -⟩ := by simpa using ht
    cases hn
  · simp at ht

/-- With the default lifetime and floor: a request fails a day after the last answer, and brings a key back that expired
long ago. -/
theorem age_in_outage :
    Chronological [⟨.keyFor "k", .still 0⟩, ⟨.keyFor "k", .still 86400000⟩, ⟨.keyFor "k", .still 86404999⟩] ∧
    (Resolver.mk "u" defaultLifetime defaultRefreshFloor).trace answeredOnce
        [⟨.keyFor "k", .still 0⟩, ⟨.keyFor "k", .still 86400000⟩, ⟨.keyFor "k", .still 86404999⟩] .initial =
      [⟨⟨.keyFor "k", .still 0⟩, some (.ok ⟨"k", .secret [2]⟩), some 0⟩,
        ⟨⟨.keyFor "k", .still 86400000⟩, some (.error (.keyResolution .fetchFailed)), some 1⟩,
        ⟨⟨.keyFor "k", .still 86404999⟩, some (.ok ⟨"k", .secret [2]⟩), none⟩] ∧
    ¬ Timely ⟨"u", defaultLifetime, defaultRefreshFloor⟩
      ⟨⟨.keyFor "k", .still 0⟩, some (.ok ⟨"k", .secret [2]⟩), some 0⟩
      [⟨⟨.keyFor "k", .still 86400000⟩, some (.error (.keyResolution .fetchFailed)), some 1⟩,
        ⟨⟨.keyFor "k", .still 86404999⟩, some (.ok ⟨"k", .secret [2]⟩), none⟩] 86404999 := by
  refine ⟨by decide, by cbv, fun h => ?_⟩
  have : 86404999 ≤ 0 + (3000000 + 5000) := h.bounded
  omega

end DatastoreAccess.Resolver
