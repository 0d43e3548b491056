import Mathlib
import DatastoreAccess.Proofs.Keys.Trace
/-!
# Proofs.Keys.Pacing — how often the endpoint is asked

Requests that no clearing separates start at least the floor apart, whatever is looked up and whatever the endpoint
answers: the start of an attempt is kept in mind before anything can fail (`Remembers`).  When the floor outlasts a whole
run, one request serves everything up to the next clearing, and the lifetime of keys does not matter
(`fetches_paced`).
-/
namespace DatastoreAccess

/-! ## What one response serves -/

namespace KeyEndpoint.Response

/-- The last key with an id in a response; a failure has none. -/
def key? (a : Response) (id : String) : Option SigningKey :=
  match a.keys with
  | .ok keys => keys.reverse.find? fun k => k.id = id
  | .error _ => none

/-- What the lookup answers that was waiting for the response. -/
def atOnce (a : Response) (id : String) : Except KeyFailure SigningKey :=
  match a.keys with
  | .ok _ => Interleaving.answerOf id (a.key? id)
  | .error e => .error e

theorem key?_of_brings {a : Response} {set : KeySet} (h : a.Brings set) (id : String) : a.key? id = set.find? id := by
  simp only [key?, h.keys]
  rfl

theorem key?_of_error {a : Response} {e : KeyFailure} (h : a.keys = .error e) (id : String) : a.key? id = none := by
  simp only [key?, h]

end KeyEndpoint.Response

namespace Resolver

open Interleaving (answerOf)

variable {r : Resolver} {endpoint : Nat → KeyEndpoint.Response}

/-- What a later call answers from a response. -/
def later (a : KeyEndpoint.Response) (q : Request) : Answer :=
  match q.id? with
  | some id => reported (answerOf id (a.key? id))
  | none => some (.error .invalidToken)

/-! ## Clocks -/

def readings (calls : List Call) : List Nat := calls.flatMap fun c => c.moments.toList

/-- The clock does not go back. -/
def Chronological (calls : List Call) : Prop := (readings calls).Pairwise (· ≤ ·)

/-- The whole run is shorter than a span of time. -/
def Within (span : Nat) (calls : List Call) : Prop := ∀ x ∈ readings calls, ∀ y ∈ readings calls, y - x < span

instance (calls : List Call) : Decidable (Chronological calls) :=
  inferInstanceAs (Decidable ((readings calls).Pairwise (· ≤ ·)))

instance (span : Nat) (calls : List Call) : Decidable (Within span calls) :=
  inferInstanceAs (Decidable (∀ x ∈ readings calls, ∀ y ∈ readings calls, y - x < span))

theorem Chronological.floor_le_start {calls : List Call} (h : Chronological calls) {c : Call} (hc : c ∈ calls) :
    c.moments.floor ≤ c.moments.start := by
  have hp := (List.pairwise_flatMap.1 h).1 c hc
  simp only [Moments.toList, List.pairwise_cons] at hp
  exact hp.2.2.1 _ List.mem_cons_self

theorem Chronological.start_le_start {before after : List Call} {c d : Call}
    (h : Chronological (before ++ c :: after)) (hd : d ∈ after) : c.moments.start ≤ d.moments.start := by
  have hp := (List.pairwise_cons.1 (List.pairwise_append.1 (List.pairwise_flatMap.1 h).2).2.1).1 d hd
  exact hp _ (by simp [Moments.toList]) _ (by simp [Moments.toList])

theorem Within.floor_sub_start {span : Nat} {calls : List Call} (h : Within span calls) {c d : Call} (hc : c ∈ calls)
    (hd : d ∈ calls) : d.moments.floor - c.moments.start < span :=
  h _ (List.mem_flatMap.2 ⟨c, hc, by simp [Moments.toList]⟩) _ (List.mem_flatMap.2 ⟨d, hd, by simp [Moments.toList]⟩)

/-! ## Attempts are remembered -/

/-- Up to a clearing, a request leaves its start in the cache, or a later request leaves its own. -/
def Remembers (past : List Event) (c : KeyCache) : Prop :=
  ∀ before e between, past = before ++ e :: between → e.request? ≠ none →
    (∀ x ∈ between, ¬ x.Clears ∧ e.start ≤ x.start) → ∃ last, c.lastFetch = some last ∧ e.start ≤ last

theorem Remembers.step {past : List Event} {c : Call} {s s' : State} {answer : Answer} {request? : Option Nat}
    (h : Remembers past s.cache) (hs : Step r endpoint c s answer request? s') :
    Remembers (past ++ [⟨c, answer, request?⟩]) s'.cache := by
  intro before e between hp he hb
  -- The request is the new event, or an older one; an older start is overwritten by later starts only.
  rcases snoc_eq_append_cons.1 hp with ⟨rfl, rfl, rfl⟩ | ⟨between', rfl, rfl⟩
  · cases request? with
    | none => exact absurd rfl he
    | some n => exact ⟨c.moments.start, hs.of_request.2.2, Nat.le_refl _⟩
  · have hx := hb _ (List.mem_append_right _ (List.mem_singleton_self _))
    cases request? with
    | none =>
      rw [hs.eq_of_quiet hx.1]
      exact h before e between' rfl he fun y hy => hb y (List.mem_append_left _ hy)
    | some n => exact ⟨c.moments.start, hs.of_request.2.2, hx.2⟩

theorem remembers_run (r : Resolver) (endpoint : Nat → KeyEndpoint.Response) (calls : List Call) :
    Remembers (r.trace endpoint calls .initial) (r.run endpoint calls .initial).2.cache := by
  refine trace_induction r endpoint .initial (motive := fun past s => Remembers past s.cache) ?_
    (fun _ _ _ _ _ _ h hs => h.step hs) calls
  intro before e between hp
  cases before <;> cases hp

theorem start_add_floor_le {calls : List Call} (hc : Chronological calls) {before between after : List Event}
    {e e' : Event} (ht : r.trace endpoint calls .initial = before ++ e :: between ++ e' :: after)
    (he : e.request? ≠ none) (he' : e'.request? ≠ none) (hb : ∀ x ∈ between, ¬ x.Clears) :
    e.start + r.refreshFloor ≤ e'.start := by
  obtain ⟨as, c, bs, rfl, has, hec⟩ := trace_eq_append_cons ht
  have hcalls : as ++ c :: bs = before.map Event.call ++ e.call :: (between.map Event.call ++ c :: bs) := by
    have h := map_call_trace r endpoint as .initial
    rw [has] at h
    simp [← h]
  have hstart (d : Call) (hd : d ∈ between.map Event.call ++ [c]) : e.call.moments.start ≤ d.moments.start := by
    rw [hcalls] at hc
    refine hc.start_le_start ?_
    rcases List.mem_append.1 hd with hd | hd
    · exact List.mem_append_left _ hd
    · exact List.mem_append_right _ (List.mem_cons.2 (.inl (List.mem_singleton.1 hd)))
  obtain ⟨last, hlast, hle⟩ := remembers_run r endpoint as before e between has he fun x hx =>
    ⟨hb x hx, hstart x.call (List.mem_append_left _ (List.mem_map_of_mem hx))⟩
  subst hec
  -- The later request found the floor over, counted from the attempt in mind.
  obtain ⟨n, hn⟩ := Option.ne_none_iff_exists'.1 he'
  have hs := perform_step r endpoint c (r.run endpoint as .initial).2
  rw [hn] at hs
  have hidle : r.refreshFloor ≤ c.moments.floor - last := by
    have := hs.of_request.2.1
    rw [KeyCache.floorActive, hlast] at this
    simpa using this
  have hfloor : c.moments.floor ≤ c.moments.start :=
    hc.floor_le_start (List.mem_append_right _ List.mem_cons_self)
  have hlater : e.start ≤ c.moments.start := hstart c (List.mem_append_right _ (List.mem_singleton_self c))
  change e.start + r.refreshFloor ≤ c.moments.start
  omega

/-! ## Lookups that the lifetime does not matter for -/

section
variable {m : Moments} {id : String} {s s' : State} {a : Except KeyFailure SigningKey} {request? : Option Nat}

theorem not_fresh_of_empty (h : s.cache = .empty) (now : Nat) : s.cache.fresh? r.lifetime now id = none := by
  rw [h]
  rfl

theorem not_floorActive_of_empty (h : s.cache = .empty) (now : Nat) :
    s.cache.floorActive r.refreshFloor now = false := by
  rw [h]
  rfl

theorem keyFor_of_empty (h : s.cache = .empty) :
    r.keyFor endpoint m id s = fetch m (endpoint s.requests) id s := by
  simp only [keyFor, not_fresh_of_empty h, not_floorActive_of_empty h, Bool.false_eq_true, if_false]

/-- A cache as new makes a request, and then has what the response has. -/
theorem Lookup.of_empty (look : Lookup r endpoint m id s a request? s') (h : s.cache = .empty) :
    a = (endpoint s.requests).atOnce id ∧ request? = some s.requests ∧ s'.cache.lastFetch = some m.start ∧
      ∀ i, s'.cache.stale? i = (endpoint s.requests).key? i := by
  cases look with
  | fresh look found =>
    rw [not_fresh_of_empty h] at found
    cases found
  | floored missed active =>
    rw [not_floorActive_of_empty h] at active
    cases active
  | failed missed idle failure =>
    refine ⟨by rw [KeyEndpoint.Response.atOnce, failure], rfl, rfl, fun i => ?_⟩
    rw [KeyEndpoint.Response.key?_of_error failure, h]
    rfl
  | filled missed idle success =>
    refine ⟨?_, rfl, rfl, fun i => ?_⟩
    · simp only [KeyEndpoint.Response.atOnce, success.keys, KeyEndpoint.Response.key?_of_brings success]
    · rw [KeyEndpoint.Response.key?_of_brings success]
      exact KeyCache.stale?_replace _ _ _ i

theorem Lookup.of_floorActive (look : Lookup r endpoint m id s a request? s')
    (h : s.cache.floorActive r.refreshFloor m.floor = true) : a = answerOf id (s.cache.stale? id) ∧ s' = s := by
  cases look with
  | fresh look found =>
    rw [KeyCache.stale?_of_fresh? found]
    exact ⟨rfl, rfl⟩
  | floored missed active => exact ⟨rfl, rfl⟩
  | failed missed idle failure =>
    rw [h] at idle
    cases idle
  | filled missed idle success =>
    rw [h] at idle
    cases idle

theorem keyFor_of_floorActive (h : s.cache.floorActive r.refreshFloor m.floor = true) :
    r.keyFor endpoint m id s = (answerOf id (s.cache.stale? id), s) := by
  obtain ⟨request?, look⟩ := keyFor_lookup r endpoint m id s
  obtain ⟨ha, hs⟩ := look.of_floorActive h
  exact Prod.ext ha hs

theorem floorActive_of_lt {c : KeyCache} {last floor now : Nat} (hl : c.lastFetch = some last)
    (h : now - last < floor) : c.floorActive floor now = true := by
  rw [KeyCache.floorActive, hl]
  simpa using h

end

/-! ## One request for a stretch -/

/-- Calls without a clearing, from the beginning or right behind a clearing. -/
structure Stretch (before stretch : List Call) : Prop where
  opens : before = [] ∨ ∃ past c, before = past ++ [c] ∧ c.request = .clear
  unbroken : ∀ c ∈ stretch, c.request ≠ .clear

def refusals (calls : List Call) : List Event := calls.map fun c => ⟨c, some (.error .invalidToken), none⟩

/-- The first call that names a key makes the one request of a stretch; what comes later is answered from its response
alone. -/
structure OneRequest (r : Resolver) (endpoint : Nat → KeyEndpoint.Response) (stretch : List Call) (s : State) :
    Prop where
  atMost : (r.trace endpoint stretch s).countP (fun e => e.request?.isSome) ≤ 1
  unasked : (∀ c ∈ stretch, c.request.id? = none) → r.trace endpoint stretch s = refusals stretch
  asked : ∀ idle c id rest, stretch = idle ++ c :: rest → (∀ d ∈ idle, d.request.id? = none) →
    c.request.id? = some id → r.trace endpoint stretch s =
      refusals idle ++ ⟨c, reported ((endpoint s.requests).atOnce id), some s.requests⟩ ::
        rest.map fun d => ⟨d, later (endpoint s.requests) d.request, none⟩

theorem Stretch.empty {before stretch : List Call} (h : Stretch before stretch) :
    (r.run endpoint before .initial).2.cache = .empty := by
  rcases h.opens with rfl | ⟨past, c, rfl, hc⟩
  · rfl
  · rw [run_append]
    change (r.perform endpoint c _).2.cache = _
    rw [perform_of_clear hc]
    rfl

theorem trace_of_unasked (r : Resolver) (endpoint : Nat → KeyEndpoint.Response) {calls : List Call}
    (hc : ∀ c ∈ calls, c.request ≠ .clear) (hid : ∀ c ∈ calls, c.request.id? = none) (s : State) :
    r.trace endpoint calls s = refusals calls ∧ (r.run endpoint calls s).2 = s :=
  trace_of_quiet fun c hm => perform_of_unreadable (hc c hm) (hid c hm)

theorem perform_later {s : State} {a : KeyEndpoint.Response} {c : Call} (hc : c.request ≠ .clear)
    (hf : s.cache.floorActive r.refreshFloor c.moments.floor = true) (ha : ∀ id, s.cache.stale? id = a.key? id) :
    r.perform endpoint c s = (later a c.request, s) := by
  cases hid : c.request.id? with
  | none =>
    rw [perform_of_unreadable hc hid, later, hid]
  | some id =>
    rw [perform_of_id hid, keyFor_of_floorActive hf, later, hid]
    simp only [ha]

theorem trace_asked {idle rest : List Call} {c : Call} {id : String} {s : State} (hs : s.cache = .empty)
    (hc : ∀ d ∈ idle ++ c :: rest, d.request ≠ .clear) (hidle : ∀ d ∈ idle, d.request.id? = none)
    (hid : c.request.id? = some id) (hw : ∀ d ∈ rest, d.moments.floor - c.moments.start < r.refreshFloor) :
    r.trace endpoint (idle ++ c :: rest) s =
      refusals idle ++ ⟨c, reported ((endpoint s.requests).atOnce id), some s.requests⟩ ::
        rest.map fun d => ⟨d, later (endpoint s.requests) d.request, none⟩ := by
  -- Nothing happens before `c`; `c` finds the cache as new; behind `c` the floor is up.
  obtain ⟨ht, hr⟩ := trace_of_unasked r endpoint (fun d hd => hc d (List.mem_append_left _ hd)) hidle s
  obtain ⟨request?, look⟩ := keyFor_lookup r endpoint c.moments id s
  obtain ⟨ha, hn, hlast, hkeys⟩ := look.of_empty hs
  have he : r.event endpoint c s = ⟨c, reported ((endpoint s.requests).atOnce id), some s.requests⟩ := by
    unfold event
    rw [perform_of_id hid]
    dsimp only
    rw [look.request?_eq, hn, ha]
  have hrest : r.trace endpoint rest (r.perform endpoint c s).2 =
      rest.map fun d => ⟨d, later (endpoint s.requests) d.request, none⟩ := by
    rw [perform_of_id hid]
    refine (trace_of_quiet fun d hd => perform_later ?_ ?_ hkeys).1
    · exact hc d (List.mem_append_right _ (List.mem_cons_of_mem c hd))
    · exact floorActive_of_lt hlast (hw d hd)
  rw [trace_append, ht, hr, trace, he, hrest]

theorem unasked_or_first (calls : List Call) : (∀ c ∈ calls, c.request.id? = none) ∨ ∃ idle c id rest,
    calls = idle ++ c :: rest ∧ (∀ d ∈ idle, d.request.id? = none) ∧ c.request.id? = some id := by
  cases hf : calls.find? fun c => c.request.id?.isSome with
  | none => exact .inl fun c hc => by simpa using List.find?_eq_none.1 hf c hc
  | some c =>
    obtain ⟨hid, idle, rest, hs, hidle⟩ := List.find?_eq_some_iff_append.1 hf
    obtain ⟨id, hid⟩ := Option.isSome_iff_exists.1 hid
    exact .inr ⟨idle, c, id, rest, hs, fun d hd => by simpa using hidle d hd, hid⟩

theorem countP_quiet (answers : Call → Answer) (calls : List Call) :
    (calls.map fun c => Event.mk c (answers c) none).countP (fun e => e.request?.isSome) = 0 := by
  simp [List.countP_eq_zero]

theorem oneRequest {stretch : List Call} {s : State} (hs : s.cache = .empty) (hc : ∀ c ∈ stretch, c.request ≠ .clear)
    (hw : Within r.refreshFloor stretch) : OneRequest r endpoint stretch s := by
  have unasked (hn : ∀ c ∈ stretch, c.request.id? = none) : r.trace endpoint stretch s = refusals stretch :=
    (trace_of_unasked r endpoint hc hn s).1
  have asked (idle : List Call) (c : Call) (id : String) (rest : List Call) (h : stretch = idle ++ c :: rest)
      (hidle : ∀ d ∈ idle, d.request.id? = none) (hid : c.request.id? = some id) :
      r.trace endpoint stretch s =
        refusals idle ++ ⟨c, reported ((endpoint s.requests).atOnce id), some s.requests⟩ ::
          rest.map fun d => ⟨d, later (endpoint s.requests) d.request, none⟩ := by
    subst h
    have hm : c ∈ idle ++ c :: rest := List.mem_append_right _ List.mem_cons_self
    exact trace_asked hs hc hidle hid fun d hd =>
      hw.floor_sub_start hm (List.mem_append_right _ (List.mem_cons_of_mem c hd))
  refine ⟨?_, unasked, asked⟩
  rcases unasked_or_first stretch with hn | ⟨idle, c, id, rest, h, hidle, hid⟩
  · rw [unasked hn, refusals, countP_quiet]
    exact Nat.zero_le 1
  · rw [asked idle c id rest h hidle hid, refusals, List.countP_append, List.countP_cons, countP_quiet, countP_quiet]
    exact Nat.le_refl 1

/-! ## Lifetimes under a long floor -/

/-- A cache as new, or one whose last attempt keeps the floor up during all calls to come. -/
def FloorHolds (floor : Nat) (calls : List Call) (c : KeyCache) : Prop :=
  c = .empty ∨ ∃ last, c.lastFetch = some last ∧ ∀ d ∈ calls, d.moments.floor - last < floor

theorem perform_lifetime (endpoint : Nat → KeyEndpoint.Response) {c : Call} {calls : List Call} {s : State}
    (h : FloorHolds r.refreshFloor (c :: calls) s.cache) (lifetime : Nat) :
    { r with lifetime := lifetime }.perform endpoint c s = r.perform endpoint c s := by
  by_cases hc : c.request = .clear
  · rw [perform_of_clear hc, perform_of_clear hc]
  · cases hid : c.request.id? with
    | none => rw [perform_of_unreadable hc hid, perform_of_unreadable hc hid]
    | some id =>
      rw [perform_of_id hid, perform_of_id hid]
      rcases h with hs | ⟨last, hl, hf⟩
      · rw [keyFor_of_empty hs, keyFor_of_empty hs]
      · have ha := floorActive_of_lt hl (hf c List.mem_cons_self)
        rw [keyFor_of_floorActive ha, keyFor_of_floorActive (r := { r with lifetime := lifetime }) ha]

theorem FloorHolds.step (endpoint : Nat → KeyEndpoint.Response) {c : Call} {calls : List Call} {s : State}
    (h : FloorHolds r.refreshFloor (c :: calls) s.cache)
    (hw : ∀ d ∈ calls, d.moments.floor - c.moments.start < r.refreshFloor) :
    FloorHolds r.refreshFloor calls (r.perform endpoint c s).2.cache := by
  have hs := perform_step r endpoint c s
  cases hn : (r.event endpoint c s).request? with
  | some n =>
    rw [hn] at hs
    exact .inr ⟨c.moments.start, hs.of_request.2.2, hw⟩
  | none =>
    by_cases hc : c.request = .clear
    · rw [perform_of_clear hc]
      exact .inl rfl
    · rw [hn] at hs
      rw [hs.eq_of_quiet hc]
      rcases h with h | ⟨last, hl, hf⟩
      · exact .inl h
      · exact .inr ⟨last, hl, fun d hd => hf d (List.mem_cons_of_mem c hd)⟩

theorem trace_lifetime {calls : List Call} {s : State} (h : FloorHolds r.refreshFloor calls s.cache)
    (hw : ∀ c ∈ calls, ∀ d ∈ calls, d.moments.floor - c.moments.start < r.refreshFloor) (lifetime : Nat) :
    { r with lifetime := lifetime }.trace endpoint calls s = r.trace endpoint calls s ∧
      { r with lifetime := lifetime }.run endpoint calls s = r.run endpoint calls s := by
  -- From the front, since `FloorHolds` speaks of the calls to come.
  induction calls generalizing s with
  | nil => exact ⟨rfl, rfl⟩
  | cons c calls ih =>
    have hp := perform_lifetime endpoint h lifetime
    obtain ⟨ht, hr⟩ := ih (h.step endpoint fun d hd => hw c List.mem_cons_self d (List.mem_cons_of_mem c hd))
      fun c' hc d hd => hw c' (List.mem_cons_of_mem c hc) d (List.mem_cons_of_mem c hd)
    constructor
    · simp only [trace, event, hp, ht]
    · simp only [run, hp, hr]

/-! ## Paced requests -/

/-- **Requests are paced by the floor.**  Two requests that no clearing separates start at least the floor apart.  In a
run within the floor, one request serves each stretch between clearings, and lifetimes do not matter. -/
theorem fetches_paced (r : Resolver) (endpoint : Nat → KeyEndpoint.Response) (calls : List Call)
    (hc : Chronological calls) :
    (∀ before e between e' after, r.trace endpoint calls .initial = before ++ e :: between ++ e' :: after →
      e.request? ≠ none → e'.request? ≠ none → (∀ x ∈ between, ¬ x.Clears) → e.start + r.refreshFloor ≤ e'.start) ∧
    (Within r.refreshFloor calls →
      (∀ before stretch after, calls = before ++ stretch ++ after → Stretch before stretch →
        OneRequest r endpoint stretch (r.run endpoint before .initial).2) ∧
      ∀ lifetime, { r with lifetime := lifetime }.trace endpoint calls .initial = r.trace endpoint calls .initial ∧
        { r with lifetime := lifetime }.run endpoint calls .initial = r.run endpoint calls .initial) := by
  refine ⟨fun before e between e' after => start_add_floor_le hc, fun hw => ⟨?_, ?_⟩⟩
  · rintro before stretch after rfl hs
    refine oneRequest hs.empty hs.unbroken fun x hx y hy => hw x ?_ y ?_
    · simp only [readings, List.flatMap_append, List.mem_append] at hx ⊢
      exact .inl (.inr hx)
    · simp only [readings, List.flatMap_append, List.mem_append] at hy ⊢
      exact .inl (.inr hy)
  · intro lifetime
    exact trace_lifetime (.inl rfl) (fun c hc d hd => hw.floor_sub_start hc hd) lifetime

/-- Four lookups within the floor, with keys that expire at once: the second makes the only request, for an id that is
not published, and its response serves the others; with a lifetime nothing is different. -/
theorem fetches_paced_within : ∃ calls : List Call, Chronological calls ∧ Within 100 calls ∧
    calls.map Call.request = [.resolve "", .keyFor "x", .keyFor "k", .keyFor "x"] ∧
    (Resolver.mk "u" 0 100).trace (fun _ => .twoUnderOne) calls .initial =
      [⟨⟨.resolve "", .still 1⟩, some (.error .invalidToken), none⟩,
        ⟨⟨.keyFor "x", .still 2⟩, some (.error (.keyResolution (.unknownKey "x"))), some 0⟩,
        ⟨⟨.keyFor "k", .still 3⟩, some (.ok ⟨"k", .secret [2]⟩), none⟩,
        ⟨⟨.keyFor "x", .still 4⟩, some (.error (.keyResolution (.unknownKey "x"))), none⟩] ∧
    (Resolver.mk "u" 50 100).trace (fun _ => .twoUnderOne) calls .initial =
      (Resolver.mk "u" 0 100).trace (fun _ => .twoUnderOne) calls .initial := by
  let calls : List Call := [⟨.resolve "", .still 1⟩, ⟨.keyFor "x", .still 2⟩, ⟨.keyFor "k", .still 3⟩,
    ⟨.keyFor "x", .still 4⟩]
  have hc : Chronological calls := by decide
  have hw : Within 100 calls := by decide
  obtain ⟨hone, hlife⟩ := (fetches_paced ⟨"u", 0, 100⟩ (fun _ => .twoUnderOne) calls hc).2 hw
  have hone := hone [] calls [] rfl ⟨.inl rfl, by decide⟩
  have hidle : ∀ d ∈ calls.take 1, d.request.id? = none := by decide
  refine ⟨calls, hc, hw, rfl, ?_, (hlife 50).1⟩
  rw [show State.initial = ((Resolver.mk "u" 0 100).run (fun _ => .twoUnderOne) [] .initial).2 from rfl,
    hone.asked (calls.take 1) ⟨.keyFor "x", .still 2⟩ "x" (calls.drop 2) rfl hidle rfl]
  cbv

end Resolver
end DatastoreAccess
