import DatastoreAccess.Keys.Calls
import DatastoreAccess.Keys.Interleaving
/-!
# Proofs.Keys.Lookup — what one lookup can do

A response either brings a key set with a usable key or it brings nothing (`keys_eq_ok`).  Of a key set, the last usable
entry with an id counts (`find?_eq_some`).  A lookup then has four courses (`Lookup`, `keyFor_lookup`): a fresh key, what
the cache has while the floor lasts, a fetch that fails, a fetch that fills the cache.  In each of them a key that is
answered is the one that the cache has for the id afterwards (`Lookup.stale?_of_ok`).
-/
namespace DatastoreAccess

/-! ## Key sets -/

namespace KeySet

/-- `k` is the key for an id: a usable entry with that id, and no usable entry behind it has the id. -/
def Publishes (set : KeySet) (id : String) (k : SigningKey) : Prop :=
  ∃ before j after, set.entries = before ++ j :: after ∧ j.signingKey? = some k ∧ k.id = id ∧
    ∀ l ∈ after, ∀ k', l.signingKey? = some k' → k'.id ≠ id

theorem find?_eq_some {set : KeySet} {id : String} {k : SigningKey} :
    set.find? id = some k ↔ set.Publishes id k := by
  -- The keys are searched from behind, and the specification speaks of the entries they come from.
  have hf : set.find? id =
      (set.entries.reverse.find? fun j => j.signingKey?.any fun k => k.id = id).bind Jwk.signingKey? := by
    rw [find?, usable, ← List.filterMap_reverse, List.find?_filterMap]
  rw [hf, Option.bind_eq_some_iff]
  simp only [List.find?_eq_some_iff_append]
  constructor
  · rintro ⟨j, ⟨hj, after, before, hs, hn⟩, hk⟩
    refine ⟨before.reverse, j, after.reverse, ?_, hk, ?_, ?_⟩
    · simpa using congrArg List.reverse hs
    · simpa [hk] using hj
    · intro l hl k' hk'
      have := hn l (List.mem_reverse.1 hl)
      simpa [hk'] using this
  · rintro ⟨before, j, after, hs, hk, hid, hn⟩
    refine ⟨j, ⟨by simpa [hk] using hid, after.reverse, before.reverse, ?_, ?_⟩, hk⟩
    · simp [hs]
    · intro l hl
      cases hk' : l.signingKey? with
      | none => rfl
      | some k' => simpa using hn l (List.mem_reverse.1 hl) k' hk'

theorem find?_eq_none {set : KeySet} {id : String} : set.find? id = none ↔ ∀ k, ¬ set.Publishes id k := by
  simp only [← find?_eq_some, Option.eq_none_iff_forall_ne_some, ne_eq]

end KeySet

/-! ## Responses -/

namespace KeyEndpoint.Response

/-- A response is a success, and its body a key set with a usable key. -/
def Brings (a : Response) (set : KeySet) : Prop :=
  ∃ status body, a = .answered status body ∧ (200 ≤ status ∧ status < 300) ∧ KeySet.ofBody? body = some set ∧
    set.usable ≠ []

theorem Brings.keys {a : Response} {set : KeySet} (h : a.Brings set) : a.keys = .ok set.usable := by
  obtain ⟨status, body, rfl, hs, hb, hu⟩ := h
  simp [Response.keys, hs, hb, hu]

theorem Brings.unique {a : Response} {set set' : KeySet} (h : a.Brings set) (h' : a.Brings set') : set = set' := by
  obtain ⟨status, body, rfl, -, hb, -⟩ := h
  obtain ⟨status', body', ha, -, hb', -⟩ := h'
  cases ha
  exact Option.some.inj (hb.symm.trans hb')

theorem keys_eq_ok {a : Response} {keys : List SigningKey} :
    a.keys = .ok keys ↔ ∃ set, a.Brings set ∧ keys = set.usable := by
  constructor
  · intro h
    unfold Response.keys at h
    split at h
    · cases h
    · rename_i status body
      split at h
      · rename_i hs
        split at h
        · cases h
        · rename_i set hb
          split at h
          · cases h
          · rename_i hu
            cases h
            exact ⟨set, ⟨status, body, rfl, hs, hb, fun he => hu (List.isEmpty_iff.2 he)⟩, rfl⟩
      · cases h
  · rintro ⟨set, h, rfl⟩
    exact h.keys

theorem not_brings {a : Response} {e : KeyFailure} (h : a.keys = .error e) (set : KeySet) : ¬ a.Brings set := by
  intro hb
  rw [hb.keys] at h
  cases h

/-- A success with two keys under one id. -/
def twoUnderOne : Response := .answered 200 (Text.encodeString
  "\x7b\"keys\":[\x7b\"kty\":\"oct\",\"kid\":\"k\",\"k\":\"AQ\"\x7d,\x7b\"kty\":\"oct\",\"kid\":\"k\",\"k\":\"Ag\"\x7d]\x7d")

end KeyEndpoint.Response

theorem KeyCache.stale?_replace (c : KeyCache) (set : KeySet) (now : Nat) (id : String) :
    (c.replace set.usable now).stale? id = set.find? id := by
  rw [stale?, held?_replace, Option.map_map]
  exact Option.map_id'

/-! ## Lookups -/

namespace Resolver

open Interleaving (answerOf)

/-- The courses of a lookup: what it answers, the number of the request that it makes, and the state that it leaves. -/
inductive Lookup (r : Resolver) (endpoint : Nat → KeyEndpoint.Response) (m : Moments) (id : String) (s : State) :
    Except KeyFailure SigningKey → Option Nat → State → Prop where
  /-- The cache has a fresh key, at the first look or at the second. -/
  | fresh {k : SigningKey} {now : Nat} (look : now = m.first ∨ now = m.again)
      (found : s.cache.fresh? r.lifetime now id = some k) : Lookup r endpoint m id s (.ok k) none s
  /-- No fresh key, and too early for a fetch: an old key serves. -/
  | floored (missed : s.cache.fresh? r.lifetime m.again id = none)
      (active : s.cache.floorActive r.refreshFloor m.floor = true) :
      Lookup r endpoint m id s (answerOf id (s.cache.stale? id)) none s
  /-- A fetch that brings nothing: only the attempt is kept in mind. -/
  | failed {e : KeyFailure} (missed : s.cache.fresh? r.lifetime m.again id = none)
      (idle : s.cache.floorActive r.refreshFloor m.floor = false) (failure : (endpoint s.requests).keys = .error e) :
      Lookup r endpoint m id s (.error e) (some s.requests) ⟨s.cache.noteFetch m.start, s.requests + 1⟩
  /-- A fetch that brings a key set, which takes the place of all that was kept. -/
  | filled {set : KeySet} (missed : s.cache.fresh? r.lifetime m.again id = none)
      (idle : s.cache.floorActive r.refreshFloor m.floor = false) (success : (endpoint s.requests).Brings set) :
      Lookup r endpoint m id s (answerOf id (set.find? id)) (some s.requests)
        ⟨(s.cache.noteFetch m.start).replace set.usable m.finish, s.requests + 1⟩

theorem keyFor_lookup (r : Resolver) (endpoint : Nat → KeyEndpoint.Response) (m : Moments) (id : String) (s : State) :
    ∃ request?, Lookup r endpoint m id s (r.keyFor endpoint m id s).1 request? (r.keyFor endpoint m id s).2 := by
  unfold keyFor
  split
  · rename_i k hk
    exact ⟨none, .fresh (.inl rfl) hk⟩
  · split
    · rename_i k hk
      exact ⟨none, .fresh (.inr rfl) hk⟩
    · rename_i hmissed
      split
      · rename_i hactive
        exact ⟨none, .floored hmissed hactive⟩
      · rename_i hidle
        have hidle : s.cache.floorActive r.refreshFloor m.floor = false := by simpa using hidle
        refine ⟨some s.requests, ?_⟩
        unfold fetch
        cases hk : (endpoint s.requests).keys with
        | error e => exact .failed hmissed hidle hk
        | ok keys =>
          obtain ⟨set, hb, rfl⟩ := KeyEndpoint.Response.keys_eq_ok.1 hk
          have hs := KeyCache.stale?_replace (s.cache.noteFetch m.start) set m.finish id
          dsimp only
          rw [hs]
          exact .filled hmissed hidle hb

variable {r : Resolver} {endpoint : Nat → KeyEndpoint.Response} {m : Moments} {id : String} {s s' : State}
  {request? : Option Nat}

theorem answerOf_eq_ok {k? : Option SigningKey} {k : SigningKey} : answerOf id k? = .ok k ↔ k? = some k := by
  cases k? <;> simp [answerOf]

theorem Lookup.stale?_of_ok {k : SigningKey} (h : Lookup r endpoint m id s (.ok k) request? s') :
    s'.cache.stale? id = some k := by
  generalize ha : Except.ok k = a at h
  cases h with
  | fresh look found =>
    cases ha
    exact KeyCache.stale?_of_fresh? found
  | floored missed active => exact answerOf_eq_ok.1 ha.symm
  | failed missed idle failure => cases ha
  | filled missed idle success =>
    rw [KeyCache.stale?_replace]
    exact answerOf_eq_ok.1 ha.symm

end Resolver
end DatastoreAccess
