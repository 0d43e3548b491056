import Mathlib.Data.List.Induction
import DatastoreAccess.Proofs.Keys.Lookup
/-!
# Proofs.Keys.Trace — what can be seen of a run

A trace has one event for each call: the call, its answer, and the number of the request to the endpoint if it made one.
What one call can do is said once (`Step`, `perform_step`); what all runs keep follows by one induction
(`trace_induction`).
-/
namespace DatastoreAccess.Resolver

/-! ## Events -/

structure Event where
  call : Call
  answer : Answer
  /-- The number of the request that the call made, if it made one. -/
  request? : Option Nat

namespace Event

def start (e : Event) : Nat := e.call.moments.start

def Clears (e : Event) : Prop := e.call.request = .clear

/-- The event sent a request, and the response brought a key set. -/
def Brings (endpoint : Nat → KeyEndpoint.Response) (e : Event) (set : KeySet) : Prop :=
  ∃ n, e.request? = some n ∧ (endpoint n).Brings set

end Event

/-- A call seen from outside; requests are counted by the endpoint. -/
def event (r : Resolver) (endpoint : Nat → KeyEndpoint.Response) (c : Call) (s : State) : Event :=
  let after := r.perform endpoint c s
  ⟨c, after.1, if after.2.requests = s.requests then none else some s.requests⟩

def trace (r : Resolver) (endpoint : Nat → KeyEndpoint.Response) : List Call → State → List Event
  | [], _ => []
  | c :: cs, s => r.event endpoint c s :: trace r endpoint cs (r.perform endpoint c s).2

variable {r : Resolver} {endpoint : Nat → KeyEndpoint.Response}

theorem trace_append (as bs : List Call) (s : State) :
    r.trace endpoint (as ++ bs) s = r.trace endpoint as s ++ r.trace endpoint bs (r.run endpoint as s).2 := by
  induction as generalizing s with
  | nil => rfl
  | cons a as ih => simp [trace, run, ih]

theorem map_answer_trace (r : Resolver) (endpoint : Nat → KeyEndpoint.Response) (cs : List Call) (s : State) :
    (r.trace endpoint cs s).map Event.answer = (r.run endpoint cs s).1 := by
  induction cs generalizing s with
  | nil => rfl
  | cons c cs ih =>
    rw [trace, List.map_cons, ih]
    rfl

theorem map_call_trace (r : Resolver) (endpoint : Nat → KeyEndpoint.Response) (cs : List Call) (s : State) :
    (r.trace endpoint cs s).map Event.call = cs := by
  induction cs generalizing s with
  | nil => rfl
  | cons c cs ih =>
    rw [trace, List.map_cons, ih]
    rfl

/-- An event in a trace is one call, in the state that the calls before it leave. -/
theorem trace_eq_append_cons {cs : List Call} {s : State} {before after : List Event} {e : Event}
    (h : r.trace endpoint cs s = before ++ e :: after) :
    ∃ as c bs, cs = as ++ c :: bs ∧ r.trace endpoint as s = before ∧ r.event endpoint c (r.run endpoint as s).2 = e := by
  induction before generalizing cs s with
  | nil =>
    cases cs with
    | nil => cases h
    | cons c cs =>
      obtain ⟨he, -⟩ := List.cons_eq_cons.1 h
      exact ⟨[], c, cs, rfl, rfl, he⟩
  | cons b before ih =>
    cases cs with
    | nil => cases h
    | cons d cs =>
      obtain ⟨hb, h⟩ := List.cons_eq_cons.1 h
      obtain ⟨as, c, bs, rfl, ha, he⟩ := ih h
      refine ⟨d :: as, c, bs, rfl, ?_, he⟩
      rw [trace, hb, ha]

/-- Where an event stands in a trace with one more event: it is that one, or it stood there before. -/
theorem snoc_eq_append_cons {past before after : List Event} {x e : Event} :
    past ++ [x] = before ++ e :: after ↔
      (past = before ∧ x = e ∧ after = []) ∨ ∃ between, after = between ++ [x] ∧ past = before ++ e :: between := by
  rcases List.eq_nil_or_concat after with rfl | ⟨between, y, rfl⟩
  · simp
  · rw [List.concat_eq_append, ← List.cons_append, ← List.append_assoc]
    constructor
    · intro h
      obtain ⟨hp, hx⟩ := List.append_inj' h rfl
      obtain rfl : x = y := by simpa using hx
      exact .inr ⟨between, rfl, hp⟩
    · rintro (⟨-, -, h⟩ | ⟨between', h, rfl⟩)
      · simp at h
      · obtain ⟨rfl, hx⟩ := List.append_inj' h rfl
        obtain rfl : y = x := by simpa using hx
        rfl

/-! ## Steps -/

def reported (a : Except KeyFailure SigningKey) : Answer := some (a.mapError .keyResolution)

/-- What a call can do: its answer, the number of its request, and the state that it leaves. -/
inductive Step (r : Resolver) (endpoint : Nat → KeyEndpoint.Response) (c : Call) (s : State) :
    Answer → Option Nat → State → Prop where
  | cleared (hc : c.request = .clear) : Step r endpoint c s none none (clear s)
  /-- A token that names no key. -/
  | unreadable (hc : c.request ≠ .clear) (hid : c.request.id? = none) :
      Step r endpoint c s (some (.error .invalidToken)) none s
  | lookedUp {id : String} {a : Except KeyFailure SigningKey} {request? : Option Nat} {s' : State}
      (hid : c.request.id? = some id) (look : Lookup r endpoint c.moments id s a request? s') :
      Step r endpoint c s (reported a) request? s'

theorem perform_of_clear {c : Call} {s : State} (h : c.request = .clear) :
    r.perform endpoint c s = (none, clear s) := by
  rw [perform, h]

theorem perform_of_unreadable {c : Call} {s : State} (hc : c.request ≠ .clear) (hid : c.request.id? = none) :
    r.perform endpoint c s = (some (.error .invalidToken), s) := by
  unfold perform
  split
  · rename_i token hq
    rw [hq] at hid
    have hk : Token.keyId? token = none := hid
    rw [resolve, hk]
  · rename_i id hq
    rw [hq] at hid
    cases hid
  · rename_i hq
    exact absurd hq hc

theorem perform_of_id {c : Call} {s : State} {id : String} (hid : c.request.id? = some id) :
    r.perform endpoint c s =
      (reported (r.keyFor endpoint c.moments id s).1, (r.keyFor endpoint c.moments id s).2) := by
  unfold perform
  split
  · rename_i token hq
    rw [hq] at hid
    have hk : Token.keyId? token = some id := hid
    rw [resolve, hk]
    rfl
  · rename_i id' hq
    rw [hq] at hid
    cases hid
    rfl
  · rename_i hq
    rw [hq] at hid
    cases hid

theorem Lookup.request?_eq {m : Moments} {id : String} {s s' : State} {a : Except KeyFailure SigningKey}
    {request? : Option Nat} (h : Lookup r endpoint m id s a request? s') :
    (if s'.requests = s.requests then none else some s.requests) = request? := by
  cases h with
  | fresh look found => exact if_pos rfl
  | floored missed active => exact if_pos rfl
  | failed missed idle failure => exact if_neg (Nat.succ_ne_self _)
  | filled missed idle success => exact if_neg (Nat.succ_ne_self _)

theorem perform_step (r : Resolver) (endpoint : Nat → KeyEndpoint.Response) (c : Call) (s : State) :
    Step r endpoint c s (r.event endpoint c s).answer (r.event endpoint c s).request? (r.perform endpoint c s).2 := by
  unfold event
  dsimp only
  by_cases hc : c.request = .clear
  · have hr : (clear s).requests = s.requests := rfl
    rw [perform_of_clear hc, if_pos hr]
    exact .cleared hc
  · cases hid : c.request.id? with
    | none =>
      rw [perform_of_unreadable hc hid, if_pos rfl]
      exact .unreadable hc hid
    | some id =>
      rw [perform_of_id hid]
      obtain ⟨request?, look⟩ := keyFor_lookup r endpoint c.moments id s
      rw [look.request?_eq]
      exact .lookedUp hid look

/-! ## What the request of a call tells -/

variable {c : Call} {s s' : State} {answer : Answer}

theorem Request.ne_clear_of_id {q : Request} {id : String} (hid : q.id? = some id) : q ≠ .clear := by
  rintro rfl
  cases hid

theorem Step.eq_of_quiet (hs : Step r endpoint c s answer none s') (hc : c.request ≠ .clear) : s' = s := by
  cases hs with
  | cleared hc' => exact absurd hc' hc
  | unreadable hc' hid => rfl
  | lookedUp hid look =>
    cases look with
    | fresh look found => rfl
    | floored missed active => rfl

/-- A request is sent when the floor allows it, and its start is kept in mind. -/
theorem Step.of_request {n : Nat} (hs : Step r endpoint c s answer (some n) s') :
    c.request ≠ .clear ∧ s.cache.floorActive r.refreshFloor c.moments.floor = false ∧
      s'.cache.lastFetch = some c.moments.start := by
  cases hs with
  | lookedUp hid look =>
    cases look with
    | failed missed idle failure => exact ⟨Request.ne_clear_of_id hid, idle, rfl⟩
    | filled missed idle success => exact ⟨Request.ne_clear_of_id hid, idle, rfl⟩

/-! ## Runs -/

/-- **What every call keeps, every run keeps.** -/
theorem trace_induction (r : Resolver) (endpoint : Nat → KeyEndpoint.Response) (s₀ : State)
    {motive : List Event → State → Prop} (start : motive [] s₀)
    (step : ∀ past s c answer request? s', motive past s → Step r endpoint c s answer request? s' →
      motive (past ++ [⟨c, answer, request?⟩]) s') (calls : List Call) :
    motive (r.trace endpoint calls s₀) (r.run endpoint calls s₀).2 := by
  -- From the back: the past grows at its end, and the step to prove is the last call.
  induction calls using List.reverseRecOn with
  | nil => exact start
  | append_singleton calls c ih =>
    rw [trace_append, run_append]
    exact step _ _ c _ _ _ ih (perform_step r endpoint c _)

theorem trace_of_quiet {cs : List Call} {answers : Call → Answer}
    (h : ∀ c ∈ cs, r.perform endpoint c s = (answers c, s)) :
    r.trace endpoint cs s = cs.map (fun c => ⟨c, answers c, none⟩) ∧ (r.run endpoint cs s).2 = s := by
  induction cs with
  | nil => exact ⟨rfl, rfl⟩
  | cons c cs ih =>
    have hc := h c List.mem_cons_self
    have he : r.event endpoint c s = ⟨c, answers c, none⟩ := by
      unfold event
      rw [hc]
      exact congrArg (Event.mk c (answers c)) (if_pos rfl)
    obtain ⟨ht, hr⟩ := ih fun d hd => h d (List.mem_cons_of_mem c hd)
    constructor
    · rw [trace, he, hc, ht, List.map_cons]
    · change (r.run endpoint cs (r.perform endpoint c s).2).2 = s
      rw [hc]
      exact hr

end DatastoreAccess.Resolver
