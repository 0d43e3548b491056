import Mathlib
import DatastoreAccess.Proofs.Keys.Trace
/-!
# Proofs.Keys.Transparency — nothing of the cache shows in the answers

While the endpoint keeps answering with one key set, a resolver answers every call as if it looked the key up in that set
each time (`answers_eq_uncached`), whatever the lifetime, the floor and the clock.  The invariant: a cache is as new, with
no attempt in mind, or it has for every id what the key set has (`Filled`).  So where the floor holds a fetch back, there
is nothing that a fetch could add.
-/
namespace DatastoreAccess.Resolver

open Interleaving (answerOf)

/-- What a key set answers when nothing is kept between the calls. -/
def uncached (set : KeySet) : Request → Answer
  | .resolve token =>
    match Token.keyId? token with
    | some id => reported (answerOf id (set.find? id))
    | none => some (.error .invalidToken)
  | .keyFor id => reported (answerOf id (set.find? id))
  | .clear => none

/-- An answer that follows from the key set and the call alone. -/
structure Uncached (set : KeySet) (q : Request) (a : Answer) : Prop where
  known : ∀ id k, q.id? = some id → set.Publishes id k → a = some (.ok k)
  unknown : ∀ id, q.id? = some id → (∀ k, ¬ set.Publishes id k) → ∃ e,
    a = some (.error (.keyResolution e)) ∧ e.message = "Key ID '" ++ id ++ "' not found in JWKS"
  /-- A token whose header cannot be read, or names no key. -/
  unreadable : ∀ token, q = .resolve token →
    (Token.header? token = none ∨ ∃ h, Token.header? token = some h ∧ h.keyId = none) →
      a = some (.error .invalidToken)

theorem uncached_of_id {set : KeySet} {q : Request} {id : String} (hid : q.id? = some id) :
    uncached set q = reported (answerOf id (set.find? id)) := by
  cases q with
  | resolve token =>
    have hk : Token.keyId? token = some id := hid
    simp only [uncached, hk]
  | keyFor id' =>
    cases hid
    rfl
  | clear => cases hid

theorem uncached_of_unreadable {set : KeySet} {q : Request} (hc : q ≠ .clear) (hid : q.id? = none) :
    uncached set q = some (.error .invalidToken) := by
  cases q with
  | resolve token =>
    have hk : Token.keyId? token = none := hid
    simp only [uncached, hk]
  | keyFor id => cases hid
  | clear => exact absurd rfl hc

theorem uncached_spec (set : KeySet) (q : Request) : Uncached set q (uncached set q) where
  known id k hid hk := by
    rw [uncached_of_id hid, KeySet.find?_eq_some.2 hk]
    rfl
  unknown id hid hn := by
    rw [uncached_of_id hid, KeySet.find?_eq_none.2 hn]
    exact ⟨.unknownKey id, rfl, rfl⟩
  unreadable token hq hh := by
    subst hq
    refine uncached_of_unreadable (by simp) ?_
    change (Token.header? token).bind Token.Header.keyId = none
    rcases hh with hh | ⟨h, hh, hk⟩
    · rw [hh]
      rfl
    · rw [hh]
      exact hk

/-! ## Caches of one key set -/

/-- A cache as new, or one that has for every id what the key set has. -/
def Filled (set : KeySet) (c : KeyCache) : Prop := c = .empty ∨ ∀ id, c.stale? id = set.find? id

variable {r : Resolver} {endpoint : Nat → KeyEndpoint.Response} {set : KeySet}

theorem Filled.of_stale {c : KeyCache} {id : String} {k : SigningKey} (h : Filled set c) (hk : c.stale? id = some k) :
    set.find? id = some k := by
  rcases h with rfl | h
  · cases hk
  · rw [← h id, hk]

theorem Filled.of_floorActive {c : KeyCache} {floor now : Nat} (h : Filled set c)
    (active : c.floorActive floor now = true) (id : String) : c.stale? id = set.find? id := by
  rcases h with rfl | h
  · cases active
  · exact h id

theorem Filled.step (hset : ∀ n, (endpoint n).Brings set) {c : Call} {s s' : State} {answer : Answer}
    {request? : Option Nat} (h : Filled set s.cache) (hs : Step r endpoint c s answer request? s') :
    answer = uncached set c.request ∧ Filled set s'.cache := by
  cases hs with
  | cleared hc =>
    rw [hc]
    exact ⟨rfl, .inl rfl⟩
  | unreadable hc hid => exact ⟨(uncached_of_unreadable hc hid).symm, h⟩
  | lookedUp hid look =>
    rw [uncached_of_id hid]
    cases look with
    | fresh look found =>
      rw [h.of_stale (KeyCache.stale?_of_fresh? found)]
      exact ⟨rfl, h⟩
    | floored missed active =>
      -- A floor that is up means an attempt, and here an attempt has filled the cache.
      rw [h.of_floorActive active]
      exact ⟨rfl, h⟩
    | failed missed idle failure => exact absurd (hset s.requests) (KeyEndpoint.Response.not_brings failure set)
    | filled missed idle success =>
      rw [success.unique (hset s.requests)]
      exact ⟨rfl, .inr fun id => KeyCache.stale?_replace _ set _ id⟩

theorem trace_uncached (r : Resolver) (hset : ∀ n, (endpoint n).Brings set) (calls : List Call) :
    ∀ e ∈ r.trace endpoint calls .initial, e.answer = uncached set e.call.request := by
  have hrun := trace_induction r endpoint .initial
    (motive := fun past s => (∀ e ∈ past, e.answer = uncached set e.call.request) ∧ Filled set s.cache)
    ⟨fun e he => absurd he List.not_mem_nil, .inl rfl⟩ ?_ calls
  · exact hrun.1
  · intro past s c answer request? s' ⟨hp, hf⟩ hs
    obtain ⟨ha, hf'⟩ := hf.step hset hs
    refine ⟨fun e he => ?_, hf'⟩
    rcases List.mem_append.1 he with he | he
    · exact hp e he
    · rw [List.mem_singleton.1 he]
      exact ha

/-- **The cache is transparent.**  An endpoint that keeps publishing one key set is answered from as if each call asked
it; the calls around an answer do not show in it, nor do the lifetime, the floor and the clock. -/
theorem answers_eq_uncached (r : Resolver) (endpoint : Nat → KeyEndpoint.Response) (set : KeySet)
    (hset : ∀ n, (endpoint n).Brings set) (calls : List Call) :
    (r.run endpoint calls .initial).1 = calls.map (fun c => uncached set c.request) ∧
    (∀ e ∈ r.trace endpoint calls .initial, Uncached set e.call.request e.answer) ∧
    ∀ (r' : Resolver) (endpoint' : Nat → KeyEndpoint.Response) (calls' : List Call),
      (∀ n, (endpoint' n).Brings set) → ∀ e ∈ r.trace endpoint calls .initial,
        ∀ e' ∈ r'.trace endpoint' calls' .initial, e.call.request = e'.call.request → e.answer = e'.answer := by
  have ht := trace_uncached r hset calls
  refine ⟨?_, ?_, ?_⟩
  · calc (r.run endpoint calls .initial).1
        = (r.trace endpoint calls .initial).map Event.answer := (map_answer_trace r endpoint calls .initial).symm
      _ = (r.trace endpoint calls .initial).map fun e => uncached set e.call.request := List.map_congr_left ht
      _ = ((r.trace endpoint calls .initial).map Event.call).map fun c => uncached set c.request := by
        rw [List.map_map]
        rfl
      _ = calls.map fun c => uncached set c.request := by rw [map_call_trace]
  · intro e he
    rw [ht e he]
    exact uncached_spec set e.call.request
  · intro r' endpoint' calls' hset' e he e' he' hq
    rw [ht e he, trace_uncached r' hset' calls' e' he', hq]

theorem twoUnderOne_brings : KeyEndpoint.Response.twoUnderOne.Brings ⟨[⟨some "k", .octets "AQ"⟩, ⟨some "k", .octets "Ag"⟩]⟩ := by
  have hu : (KeySet.mk [⟨some "k", .octets "AQ"⟩, ⟨some "k", .octets "Ag"⟩]).usable =
      [⟨"k", .secret [1]⟩, ⟨"k", .secret [2]⟩] := by cbv
  refine ⟨200, _, rfl, by decide, ?_, ?_⟩
  · cbv
  · simp [hu]

/-- Two keys under one id, no lifetime at all and a floor: the later key is answered each time. -/
theorem answers_eq_uncached_of_two :
    (∀ n : Nat, ((fun _ => .twoUnderOne : Nat → KeyEndpoint.Response) n).Brings
      ⟨[⟨some "k", .octets "AQ"⟩, ⟨some "k", .octets "Ag"⟩]⟩) ∧
    ((Resolver.mk "u" 0 5).run (fun _ => .twoUnderOne) [⟨.keyFor "x", .still 1⟩, ⟨.keyFor "k", .still 2⟩,
        ⟨.clear, .still 3⟩, ⟨.resolve "", .still 3⟩, ⟨.keyFor "k", .still 9⟩] .initial).1 =
      [some (.error (.keyResolution (.unknownKey "x"))), some (.ok ⟨"k", .secret [2]⟩), none,
        some (.error .invalidToken), some (.ok ⟨"k", .secret [2]⟩)] := by
  have hb (n : Nat) := twoUnderOne_brings
  refine ⟨hb, ?_⟩
  rw [(answers_eq_uncached _ _ _ hb _).1]
  cbv

end DatastoreAccess.Resolver
