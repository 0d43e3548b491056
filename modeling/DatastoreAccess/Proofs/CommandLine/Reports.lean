import Mathlib
import DatastoreAccess.CommandLine.Decision
import DatastoreAccess.Proofs.Access.Correlation
import DatastoreAccess.Proofs.Access.Separation
import DatastoreAccess.Proofs.Json.RoundTrip
import DatastoreAccess.Proofs.Settings.ServiceKey
import DatastoreAccess.Proofs.Token.Readings
/-!
# Proofs.CommandLine.Reports — what a run says about its decision

A command implies one or two calls of the service: one for the decision, and one for the identity behind a user-info
token that is given.  A run that gets as far as its command says that access is granted when every call succeeds
(`Passes`), and else, of the first call that fails (`Fails`), only the kind of its error.  What it says is an object, and
that object can be read from what it prints (`Outcome.Prints`).  An identity that is printed is that of the user who is
printed, whatever is checked (`reports_of_started`).

One failure has no kind: a call may break off, and the run with it, which then says nothing.  The token is a good one,
and the leeway exceeds the time (`Breaks`, `silent_beyond_now`).
-/
namespace DatastoreAccess

/-- An identity held against a grant of the strategy is that of the user of the grant. -/
theorem Strategy.userId_of_identity {s : Strategy} {now : UInt64} {g : Grant} {userInfo : Option String} {i : Identity}
    (h : s.Carries g) (hi : s.identity now g userInfo = .ok i) : i.userId = g.userId := by
  cases s with
  | off =>
    cases hi
    rw [show g = Grant.development from h]
    rfl
  | skipSignature d k =>
    obtain ⟨t, c, -, -, -, -, rfl⟩ := ((correlates h d now none false userInfo).ok_iff i).1 hi
    rfl
  | full r d k =>
    obtain ⟨t, c, -, -, -, -, rfl⟩ := ((correlates h.1 d now g.key true userInfo).ok_iff i).1 hi
    rfl

namespace CommandLine

/-- A run gets as far as its command: the line can be read, and the settings give an authorizer. -/
structure Started (look : String → Found) (env : List (String × String)) (words : List String) (i : Invocation)
    (a : Authorizer) : Prop where
  parsed : read env words = .ok i
  configured : ∃ c, Settings.load look env i.config = .ok c ∧ Authorizer.ofConfiguration c = .ok a

/-! ## Calls -/

/-- A command asks for a grant, with this answer, and for the identity behind a user-info token if one is given. -/
inductive Asks (a : Authorizer) (o : Occasion) : Command → Except Failure Grant → Option String → Prop where
  | dataAdmin {rdn : String} {token userInfo : Option String} {answer : Except Failure Grant}
      (call : (a.dataAdministrator o rdn token .initial).1 = answer) :
      Asks a o (.dataAdmin rdn token userInfo) answer userInfo
  | provisioner {token userInfo : Option String} {answer : Except Failure Grant}
      (call : (a.provisioner o token .initial).1 = answer) : Asks a o (.provisioner token userInfo) answer userInfo

/-- Every call that a command implies succeeds. -/
inductive Passes (a : Authorizer) (o : Occasion) : Command → Prop where
  | user {token : Option String} {user : String} (call : (a.user o token .initial).1 = .ok user) :
      Passes a o (.user token)
  | grant {cmd : Command} {g : Grant} (asks : Asks a o cmd (.ok g) none) : Passes a o cmd
  | identity {cmd : Command} {g : Grant} {t : String} {i : Identity} (asks : Asks a o cmd (.ok g) (some t))
      (call : a.identity o.now g (some t) = .ok i) : Passes a o cmd
  | serviceKey {key : Option String} (call : a.serviceKey key = .ok ()) : Passes a o (.apiKey key)

/-- The first call of a command that does not succeed ends so. -/
inductive Fails (a : Authorizer) (o : Occasion) : Command → Failure → Prop where
  | user {token : Option String} {e : Failure} (call : (a.user o token .initial).1 = .error e) :
      Fails a o (.user token) e
  | grant {cmd : Command} {userInfo : Option String} {e : Failure} (asks : Asks a o cmd (.error e) userInfo) :
      Fails a o cmd e
  | identity {cmd : Command} {g : Grant} {t : String} {e : Failure} (asks : Asks a o cmd (.ok g) (some t))
      (call : a.identity o.now g (some t) = .error e) : Fails a o cmd e
  | serviceKey {key : Option String} {e : AccessError} (call : a.serviceKey key = .error e) :
      Fails a o (.apiKey key) (.refused e)

/-- The token that a command asks for a decision on. -/
def Command.token? : Command → Option String
  | .user token => token
  | .dataAdmin _ token _ => token
  | .provisioner token _ => token
  | .apiKey _ => none

/-- A command breaks off: on its token, or on the user-info token that is held against a grant. -/
inductive Breaks (a : Authorizer) (o : Occasion) : Command → Prop where
  | token {cmd : Command} (breaks : a.strategy.BreaksOff o .initial cmd.token?) : Breaks a o cmd
  | userInfo {cmd : Command} {g : Grant} {t : String} {r : Resolver} {d : Decoder} {k : ServiceKey}
      (asks : Asks a o cmd (.ok g) (some t)) (mode : a.strategy = .full r d k) (nonempty : t ≠ "")
      (breaks : d.BreaksOff o.now g.key true t) : Breaks a o cmd

section Decisions

variable {a : Authorizer} {o : Occasion} {cmd : Command}

theorem Asks.carries {g : Grant} {userInfo : Option String} (h : Asks a o cmd (.ok g) userInfo) :
    a.strategy.Carries g := by
  refine Authorizer.Issues.carries ?_
  cases h with
  | dataAdmin call => exact ⟨o, _, _, .inl ⟨_, call⟩⟩
  | provisioner call => exact ⟨o, _, _, .inr call⟩

/-- Both commands that ask for a grant decide alike, but for the name of a datastore. -/
theorem Asks.decide_eq {answer : Except Failure Grant} {userInfo : Option String} (h : Asks a o cmd answer userInfo) :
    ∃ rdn, decide a o cmd = do
      let g ← answer
      return grantFields g rdn (← identityOf a o.now g userInfo) := by
  cases h with
  | dataAdmin call =>
    subst call
    exact ⟨some _, rfl⟩
  | provisioner call =>
    subst call
    exact ⟨none, rfl⟩

theorem passes_or_fails (a : Authorizer) (o : Occasion) (cmd : Command) :
    Passes a o cmd ∨ ∃ e, Fails a o cmd e := by
  have asked {answer : Except Failure Grant} {userInfo : Option String} (h : Asks a o cmd answer userInfo) :
      Passes a o cmd ∨ ∃ e, Fails a o cmd e := by
    cases answer with
    | error e => exact .inr ⟨e, .grant h⟩
    | ok g =>
      cases userInfo with
      | none => exact .inl (.grant h)
      | some t =>
        cases hi : a.identity o.now g (some t) with
        | error e => exact .inr ⟨e, .identity h hi⟩
        | ok i => exact .inl (.identity h hi)
  cases cmd with
  | user token =>
    cases hu : (a.user o token .initial).1 with
    | error e => exact .inr ⟨e, .user hu⟩
    | ok user => exact .inl (.user hu)
  | dataAdmin rdn token userInfo => exact asked (.dataAdmin rfl)
  | provisioner token userInfo => exact asked (.provisioner rfl)
  | apiKey key =>
    cases hk : a.serviceKey key with
    | error e => exact .inr ⟨.refused e, .serviceKey hk⟩
    | ok => exact .inl (.serviceKey hk)

theorem decide_of_fails {e : Failure} (h : Fails a o cmd e) : decide a o cmd = .error e := by
  cases h with
  | user call =>
    rw [decide, call]
    rfl
  | grant asks =>
    obtain ⟨rdn, h⟩ := asks.decide_eq
    rw [h]
    rfl
  | identity asks call =>
    obtain ⟨rdn, h⟩ := asks.decide_eq
    rw [h]
    change (do return grantFields _ rdn (← (a.identity o.now _ _).map some)) = _
    rw [call]
    rfl
  | serviceKey call =>
    rw [decide, call]
    rfl

/-! ## Reports -/

/-- What the fields of a success tell: the user of the grant, and the identity of the same user just when a user-info
token is given. -/
structure Tells (fields : List (String × Json)) (g : Grant) (userInfo : Option String) : Prop where
  authorized : fields.lookup "authorized" = some (.bool true)
  user : fields.lookup "user_id" = some (.string g.userId)
  anonymous : fields.lookup "identity" = some .null ↔ userInfo = none
  identified : userInfo ≠ none → ∃ members, fields.lookup "identity" = some (.object members) ∧
    members.lookup "user_id" = some (.string g.userId)

theorem tells_of_grantFields {g : Grant} (rdn : Option String) {userInfo : Option String} {identity : Option Identity}
    (hc : a.strategy.Carries g) (hi : identityOf a o.now g userInfo = .ok identity) :
    ∃ fields, grantFields g rdn identity = .object fields ∧ Tells fields g userInfo := by
  refine ⟨_, rfl, ?_⟩
  cases userInfo with
  | none =>
    cases hi
    cases rdn <;> exact ⟨rfl, rfl, iff_of_true rfl rfl, fun h => absurd rfl h⟩
  | some t =>
    obtain ⟨i, hcall, rfl⟩ := Answers.map_ok.1 hi
    have huser : i.userId = g.userId := Strategy.userId_of_identity hc hcall
    cases rdn <;> exact ⟨rfl, rfl, iff_of_false nofun nofun, fun _ => ⟨_, rfl, huser ▸ rfl⟩⟩

theorem Asks.tells {g : Grant} {userInfo : Option String} {identity : Option Identity}
    (h : Asks a o cmd (.ok g) userInfo) (hi : identityOf a o.now g userInfo = .ok identity) :
    ∃ fields, decide a o cmd = .ok (.object fields) ∧ Tells fields g userInfo := by
  obtain ⟨rdn, hd⟩ := h.decide_eq
  obtain ⟨fields, hfields, htells⟩ := tells_of_grantFields rdn h.carries hi
  refine ⟨fields, ?_, htells⟩
  rw [hd, ← hfields]
  change (do return grantFields g rdn (← identityOf a o.now g userInfo)) = _
  rw [hi]
  rfl

theorem Asks.tells_of_identity {g : Grant} {t : String} {i : Identity} (h : Asks a o cmd (.ok g) (some t))
    (call : a.identity o.now g (some t) = .ok i) :
    ∃ fields, decide a o cmd = .ok (.object fields) ∧ Tells fields g (some t) :=
  h.tells (Answers.map_ok.2 ⟨i, call, rfl⟩)

theorem decide_of_passes (h : Passes a o cmd) : ∃ fields, decide a o cmd = .ok (.object fields) ∧
    fields.lookup "authorized" = some (.bool true) := by
  cases h with
  | @user token user call =>
    refine ⟨[("authorized", .bool true), ("user_id", .string user)], ?_, rfl⟩
    rw [decide, call]
    rfl
  | grant asks =>
    obtain ⟨fields, hd, htells⟩ := asks.tells rfl
    exact ⟨fields, hd, htells.authorized⟩
  | identity asks call =>
    obtain ⟨fields, hd, htells⟩ := asks.tells_of_identity call
    exact ⟨fields, hd, htells.authorized⟩
  | serviceKey call =>
    refine ⟨[("authorized", .bool true)], ?_, rfl⟩
    rw [decide, call]
    rfl

theorem Passes.not_fails {e : Failure} (h : Passes a o cmd) : ¬ Fails a o cmd e := by
  intro hf
  obtain ⟨fields, hd, -⟩ := decide_of_passes h
  cases hd.symm.trans (decide_of_fails hf)

theorem Passes.tells {answer : Except Failure Grant} {userInfo : Option String} (hp : Passes a o cmd)
    (h : Asks a o cmd answer userInfo) :
    ∃ g, answer = .ok g ∧ ∃ fields, decide a o cmd = .ok (.object fields) ∧ Tells fields g userInfo := by
  cases answer with
  | error e => exact absurd (.grant h) hp.not_fails
  | ok g =>
    refine ⟨g, rfl, ?_⟩
    cases userInfo with
    | none => exact h.tells rfl
    | some t =>
      cases hi : a.identity o.now g (some t) with
      | error e => exact absurd (.identity h hi) hp.not_fails
      | ok i => exact h.tells_of_identity hi

/-- **When a command breaks off**: the call that does is the first that fails. -/
theorem fails_overflow_iff : Fails a o cmd .overflow ↔ Breaks a o cmd := by
  constructor
  · intro h
    cases h with
    | user call => exact .token (Authorizer.user_eq_overflow.1 call)
    | grant asks =>
      cases asks with
      | dataAdmin call => exact .token (Authorizer.dataAdministrator_eq_overflow.1 call)
      | provisioner call => exact .token (Authorizer.provisioner_eq_overflow.1 call)
    | identity asks call =>
      obtain ⟨r, d, k, t, hs, ht, hne, hb⟩ := Strategy.identity_eq_overflow.1 call
      cases ht
      exact .userInfo asks hs hne hb
  · intro h
    cases h with
    | token breaks =>
      cases cmd with
      | user token => exact .user (Authorizer.user_eq_overflow.2 breaks)
      | dataAdmin rdn token userInfo => exact .grant (.dataAdmin (Authorizer.dataAdministrator_eq_overflow.2 breaks))
      | provisioner token userInfo => exact .grant (.provisioner (Authorizer.provisioner_eq_overflow.2 breaks))
      | apiKey key =>
        obtain ⟨r, d, k, t, key, -, keyed, -⟩ := breaks
        cases keyed.given
    | userInfo asks mode nonempty breaks =>
      exact .identity asks (Strategy.identity_eq_overflow.2 ⟨_, _, _, _, mode, rfl, nonempty, breaks⟩)

/-! ## Printed objects -/

theorem written_identity {room : Nat} (i : Identity) : Json.Written (room + 1) i.toJson :=
  .record (show ["user_id", "first_name", "last_name"].Nodup by decide) ⟨.string _, .string _, .string _⟩

theorem written_grantFields (g : Grant) (rdn : Option String) (identity : Option Identity) :
    Json.Written Json.depthLimit (grantFields g rdn identity) := by
  have hidentity : Json.Written 126 ((identity.map Identity.toJson).getD .null) := by
    cases identity with
    | none => exact .null
    | some i => exact written_identity i
  cases rdn with
  | none =>
    have hnames : ["authorized", "user_id", "identity"].Nodup := by decide
    exact .record hnames ⟨.bool true, .string g.userId, hidentity⟩
  | some rdn =>
    have hnames : ["authorized", "user_id", "rdn", "identity"].Nodup := by decide
    exact .record hnames ⟨.bool true, .string g.userId, .string rdn, hidentity⟩

theorem written_refusal (k : ErrorKind) : Json.Written Json.depthLimit (refusal k) := by
  have hstatus : Json.FitsWord k.status := by cases k <;> decide
  have hnames : ["authorized", "status", "detail"].Nodup := by decide
  exact .record hnames ⟨.bool false, .integer hstatus, .string k.publicMessage⟩

theorem written_of_decide {j : Json} (h : decide a o cmd = .ok j) : Json.Written Json.depthLimit j := by
  cases cmd with
  | user token =>
    obtain ⟨user, -, h⟩ := Answers.bind_ok.1 h
    cases h
    exact .record (show ["authorized", "user_id"].Nodup by decide) ⟨.bool true, .string user⟩
  | dataAdmin rdn token userInfo =>
    obtain ⟨g, -, h⟩ := Answers.bind_ok.1 h
    obtain ⟨identity, -, h⟩ := Answers.bind_ok.1 h
    cases h
    exact written_grantFields g rdn identity
  | provisioner token userInfo =>
    obtain ⟨g, -, h⟩ := Answers.bind_ok.1 h
    obtain ⟨identity, -, h⟩ := Answers.bind_ok.1 h
    cases h
    exact written_grantFields g none identity
  | apiKey key =>
    obtain ⟨-, -, h⟩ := Answers.bind_ok.1 h
    cases h
    exact .record (show ["authorized"].Nodup by decide) (.bool true)

end Decisions

namespace Outcome

/-- A run prints an object: the text of it, from which it can be read again. -/
structure Prints (out : Outcome) (fields : List (String × Json)) : Prop where
  text : out.stdout = (Json.object fields).pretty ++ "\n"
  read : Json.ofString? out.stdout = some (.object fields)

/-- A success, which shows fields with these properties. -/
def Grants (out : Outcome) (shown : List (String × Json) → Prop) : Prop :=
  out.exit = 0 ∧ ∃ fields, out.Prints fields ∧ shown fields

/-- A refusal, which shows the kind of an error and nothing else. -/
def Refuses (out : Outcome) (kind : ErrorKind) : Prop :=
  out.exit = 1 ∧ out.Prints [("authorized", .bool false), ("status", .number (.integer kind.status)),
    ("detail", .string kind.publicMessage)]

theorem Refuses.eq {out out' : Outcome} {kind : ErrorKind} (h : out.Refuses kind) (h' : out'.Refuses kind) :
    out = out' := by
  obtain ⟨exit, stdout⟩ := out
  obtain ⟨hexit, hprints⟩ := h
  obtain ⟨hexit', hprints'⟩ := h'
  exact Outcome.mk.injEq _ _ _ _ ▸ ⟨hexit.trans hexit'.symm, hprints.text.trans hprints'.text.symm⟩

end Outcome

/-- What a run leaves behind that has got as far as its command. -/
structure Reports (a : Authorizer) (o : Occasion) (cmd : Command) (out : Outcome) : Prop where
  granted_iff : (out.Grants fun fields => fields.lookup "authorized" = some (.bool true)) ↔ Passes a o cmd
  tells : ∀ answer userInfo, Asks a o cmd answer userInfo → Passes a o cmd →
    ∃ g, answer = .ok g ∧ out.Grants fun fields => Tells fields g userInfo
  fails : ¬ Passes a o cmd → ∃ e, Fails a o cmd e
  refuses : ∀ e, Fails a o cmd (.refused e) → ¬ Passes a o cmd ∧ out.Refuses e.kind
  /-- The exit of a program that is given up, with nothing printed. -/
  breaks : Fails a o cmd .overflow → ¬ Passes a o cmd ∧ out = ⟨101, ""⟩
  breaks_iff : Fails a o cmd .overflow ↔ Breaks a o cmd

theorem refuses_of_fails {a : Authorizer} {o : Occasion} {cmd : Command} {e : AccessError}
    (h : Fails a o cmd (.refused e)) : (Outcome.ofDecision (decide a o cmd)).Refuses e.kind := by
  rw [decide_of_fails h]
  exact ⟨rfl, rfl, Json.ofString?_pretty (written_refusal e.kind)⟩

theorem grants_of_decide {a : Authorizer} {o : Occasion} {cmd : Command} {fields : List (String × Json)}
    {shown : List (String × Json) → Prop} (hd : decide a o cmd = .ok (.object fields)) (h : shown fields) :
    (Outcome.ofDecision (decide a o cmd)).Grants shown := by
  have hwritten := written_of_decide hd
  rw [hd]
  exact ⟨rfl, fields, ⟨rfl, Json.ofString?_pretty hwritten⟩, h⟩

theorem reports (a : Authorizer) (o : Occasion) (cmd : Command) :
    Reports a o cmd (Outcome.ofDecision (decide a o cmd)) := by
  constructor
  case granted_iff =>
    constructor
    · rintro ⟨hexit, -⟩
      refine (passes_or_fails a o cmd).resolve_right ?_
      rintro ⟨e, h⟩
      rw [decide_of_fails h] at hexit
      cases e <;> cases hexit
    · intro h
      obtain ⟨fields, hd, hauthorized⟩ := decide_of_passes h
      exact grants_of_decide hd hauthorized
  case tells =>
    intro answer userInfo h hp
    obtain ⟨g, hg, fields, hd, htells⟩ := hp.tells h
    exact ⟨g, hg, grants_of_decide hd htells⟩
  case fails => exact (passes_or_fails a o cmd).resolve_left
  case refuses => exact fun e h => ⟨fun hp => hp.not_fails h, refuses_of_fails h⟩
  case breaks =>
    intro h
    refine ⟨fun hp => hp.not_fails h, ?_⟩
    rw [decide_of_fails h]
    rfl
  case breaks_iff => exact fails_overflow_iff

theorem Started.outcome_eq {look : String → Found} {env : List (String × String)} {words : List String} {i : Invocation}
    {a : Authorizer} (h : Started look env words i a) (o : Occasion) :
    outcome look env o words = Outcome.ofDecision (decide a o i.command) := by
  obtain ⟨c, hload, ha⟩ := h.configured
  unfold outcome
  rw [h.parsed]
  dsimp only
  unfold perform
  rw [hload]
  dsimp only
  rw [ha]

/-- **What the command line tells.**  A run that has started grants access when every call of its command succeeds, with
the identity of the user if a user-info token is given; else it shows the kind of the first error, so that runs with
errors of one kind cannot be told apart, whatever their settings, tokens and causes are.  A run says nothing just when
its command breaks off. -/
theorem reports_of_started (look : String → Found) (env : List (String × String)) (o : Occasion) (words : List String)
    (i : Invocation) (a : Authorizer) (h : Started look env words i a) :
    Reports a o i.command (outcome look env o words) ∧
    ∀ look' env' o' words' i' a' e e', Started look' env' words' i' a' → Fails a o i.command (.refused e) →
      Fails a' o' i'.command (.refused e') → e.kind = e'.kind → outcome look env o words = outcome look' env' o' words' := by
  rw [h.outcome_eq o]
  refine ⟨reports a o i.command, fun look' env' o' words' i' a' e e' h' he he' hk => ?_⟩
  rw [h'.outcome_eq o']
  exact (refuses_of_fails he).eq (hk ▸ refuses_of_fails he')

/-- A service that checks nothing, as it is set by the mode alone. -/
def openService : Authorizer := ⟨.off, ⟨"", "", ""⟩, "role/dataadministrator", ⟨[]⟩⟩

theorem started_open : Started (fun _ => .missing) [("DATASTORE_AUTH_MODE", "OFF")]
    ["data-admin", "--rdn", "no.ssb", "--user-info", ""] ⟨.dataAdmin "no.ssb" none (some ""), none⟩ openService where
  parsed := by cbv
  configured := by
    refine ⟨⟨.off, none, ⟨"", "", ""⟩, "role/dataadministrator", ⟨[]⟩, "", 3000, 10, 0⟩, ?_, rfl⟩
    refine Settings.load_eq_ok.2 ⟨.table [("mode", .text "OFF")],
      ⟨"OFF", none, none, none, none, [], none, none, none, none, 0⟩, ?_, ?_, ?_⟩
    · cbv
    · cbv
    · cbv

/-- The service of `Settings.keyVariables`. -/
def keyService : Authorizer :=
  ⟨.skipSignature ⟨0⟩ (ServiceKey.ofString "k"), ⟨"d", "j", "p"⟩, "role/dataadministrator", ⟨[]⟩⟩

theorem started_user : Started (fun _ => .missing) (Settings.keyVariables "k") ["user"] ⟨.user none, none⟩ keyService where
  parsed := by cbv
  configured := ⟨_, Settings.load_of_keyVariables (by decide), rfl⟩

theorem started_apiKey : Started (fun _ => .missing) (Settings.keyVariables "k") ["api-key"] ⟨.apiKey none, none⟩
    keyService where
  parsed := by cbv
  configured := ⟨_, Settings.load_of_keyVariables (by decide), rfl⟩

/-- Where nothing is checked even an empty user-info token gives an identity; and a missing token cannot be told from a
missing key. -/
theorem reports_of_started_samples : ∃ o, (outcome (fun _ => .missing) [("DATASTORE_AUTH_MODE", "OFF")] o
      ["data-admin", "--rdn", "no.ssb", "--user-info", ""]).Grants
        (fun fields => Tells fields Grant.development (some "")) ∧
    outcome (fun _ => .missing) (Settings.keyVariables "k") o ["user"] =
      outcome (fun _ => .missing) (Settings.keyVariables "k") o ["api-key"] := by
  let o : Occasion := ⟨fun _ => .unanswered, .still 0, 0⟩
  have hasks : Asks openService o (.dataAdmin "no.ssb" none (some "")) (.ok Grant.development) (some "") :=
    .dataAdmin rfl
  have hpasses : Passes openService o (.dataAdmin "no.ssb" none (some "")) := .identity hasks rfl
  have huser : Fails keyService o (.user none) (.refused (.unauthenticated .noToken)) := .user rfl
  have hkey : Fails keyService o (.apiKey none) (.refused (.unauthenticated .noServiceKey)) := .serviceKey rfl
  refine ⟨o, ?_, ?_⟩
  · obtain ⟨g, hg, hgrants⟩ := (reports_of_started _ _ o _ _ _ started_open).1.tells _ _ hasks hpasses
    rw [Except.ok.inj hg]
    exact hgrants
  · exact (reports_of_started _ _ o _ _ _ started_user).2 _ _ o _ _ _ _ _ started_apiKey huser hkey rfl

/-! ## A run that says nothing -/

/-- A token of the user `u` for the audience `d` that expires in the year 2100, signed with the sample key under the id
`k`. -/
def datedParts : Token.Compact :=
  ⟨"eyJhbGciOiJSUzI1NiIsImtpZCI6ImsifQ".toList, "eyJhdWQiOiJkIiwiZXhwIjo0MTAyNDQ0ODAwLCJzdWIiOiJ1In0".toList,
  Text.Base64Url.encode (Token.ofGroups
  [0x4ffb51f280883cb031182266029ea6f74b6e7e80191bb36b6fe292480cea78dd,
   0xb4c31a7c0afeeb09a51c25e2048a5be1ccd881fed0667624f96bbd0eb6fa1a62,
   0x7745ef9af9126c9b9f5194fdd12e0fcd6101942c53408854864c1c8f49795392,
   0x02a28d9010e78f9b31a6b2a21b3dc3a41f719447e12297b5763fd5280496c00d,
   0x0254e2ea4c2331283c00dcebcf3b504faa4f3465a727e4e3377cdf2eaf6d792a,
   0x0b3e8b97fd1027bddaa2a199199bdafb2e52277dd2ba42bc11218821d4ddc227,
   0x380e9e9d97307c6637ac969ac1f3e500e07b8698c0f875ef4883dc2127f3a495,
   0x63126bc178e191dc350ed79f9c41ad5510474f9124f8ee83423a048f8f63223f])⟩

def datedToken : String := String.ofList datedParts.toChars

def datedClaims : Claims := ⟨[("aud", .string "d"), ("exp", .number (.integer 4102444800)), ("sub", .string "u")]⟩

theorem dated_opened : Token.Opened datedToken datedParts ⟨.rs256, some "k"⟩ := by
  refine ⟨?_, by decide +kernel⟩
  rw [Token.Compact.ofString?, datedToken, String.toList_ofList]
  decide +kernel

theorem dated_signatureHolds : Token.signatureHolds? datedParts .sha256 (.rsa Token.Sample.key) = some true := by
  decide +kernel

set_option maxRecDepth 8192 in
theorem dated_tree : Token.payloadTree? datedParts.payload = some (.object [(some "aud", .text (some "d")),
    (some "exp", .number ⟨false, [4, 1, 0, 2, 4, 4, 4, 8, 0, 0], [], none⟩), (some "sub", .text (some "u"))]) := by cbv

theorem dated_payload : Token.signedPayload? datedParts.payload = some datedClaims := by
  refine Token.signedPayload?_eq_some.2 ⟨?_, _, dated_tree, Token.slotsReadable_iff.1 (by decide)⟩
  rw [Token.payload?, dated_tree]
  rfl

theorem dated_vouched : Token.Vouched datedToken (.rsa Token.Sample.key) datedClaims :=
  ⟨datedParts, _, .sha256, dated_opened, rfl, dated_signatureHolds, dated_payload⟩

/-- The sample key as it is published. -/
def sampleModulus : String := String.ofList (Text.Base64Url.encode Token.Sample.key.modulus)

def sampleKeySet : Json := .object [("keys", .array [.object [("kty", .string "RSA"), ("kid", .string "k"),
  ("n", .string sampleModulus), ("e", .string "AQAB")]])]

theorem written_sampleKeySet : Json.Written 3 sampleKeySet := by
  refine .record (show ["keys"].Nodup by decide) (.array (List.forall_mem_singleton.2 ?_))
  have hnames : ["kty", "kid", "n", "e"].Nodup := by decide
  exact .record hnames ⟨.string _, .string _, .string _, .string _⟩

def sampleResponse : KeyEndpoint.Response := .answered 200 (Text.encodeString (sampleKeySet.pretty ++ "\n"))

theorem sampleResponse_keys : sampleResponse.keys = .ok [⟨"k", .rsa Token.Sample.key⟩] := by
  have hset : KeySet.ofBody? (Text.encodeString (sampleKeySet.pretty ++ "\n")) =
      some ⟨[⟨some "k", .rsa sampleModulus "AQAB"⟩]⟩ := by
    rw [KeySet.ofBody?, Json.ofBytes?_pretty written_sampleKeySet]
    rfl
  have hkey : (Jwk.mk (some "k") (.rsa sampleModulus "AQAB")).signingKey? = some ⟨"k", .rsa Token.Sample.key⟩ := by
    simp only [Jwk.signingKey?, Jwk.Parameters.material?, sampleModulus, String.toList_ofList,
      Text.Base64Url.decode?_encode]
    rfl
  have husable : (KeySet.mk [⟨some "k", .rsa sampleModulus "AQAB"⟩]).usable = [⟨"k", .rsa Token.Sample.key⟩] := by
    rw [KeySet.usable, List.filterMap_cons_some hkey]
    rfl
  rw [sampleResponse, KeyEndpoint.Response.keys, if_pos (by decide), hset]
  simp only [husable]
  rfl

theorem keyFor_of_keys {a : KeyEndpoint.Response} {key : SigningKey} (h : a.keys = .ok [key]) (r : Resolver)
    (m : Resolver.Moments) : (r.keyFor (fun _ => a) m key.id .initial).1 = .ok key := by
  change (Resolver.fetch m a key.id .initial).1 = _
  rw [Resolver.fetch, h]
  simp [KeyCache.stale?, KeyCache.held?_replace]

/-- Variables for a deployment that checks signatures, with a leeway of 95 years. -/
def fullVariables : List (String × String) :=
  [("DATASTORE_AUTH_JWKS_URL", "http://[::1]"), ("DATASTORE_AUTH_AUDIENCES__DATA", "d"),
    ("DATASTORE_AUTH_AUDIENCES__JOBS", "j"), ("DATASTORE_AUTH_AUDIENCES__PROVISIONING", "p"),
    ("DATASTORE_AUTH_API_SERVICE_KEY", "k"), ("DATASTORE_AUTH_LEEWAY_SECS", "3000000000")]

def fullSettings : Settings.Raw :=
  ⟨"FULL", some "http://[::1]", some ⟨"d", "j", "p"⟩, none, none, [], some "k", none, none, none, 3000000000⟩

def fullConfiguration : Configuration :=
  ⟨.full, some "http://[::1]", ⟨"d", "j", "p"⟩, "role/dataadministrator", ⟨[]⟩, "k", 3000, 10, 3000000000⟩

def fullService : Authorizer := ⟨.full ⟨"http://[::1]", 3000000, 5000⟩ ⟨3000000000⟩ (ServiceKey.ofString "k"),
  ⟨"d", "j", "p"⟩, "role/dataadministrator", ⟨[]⟩⟩

theorem raw_of_fullVariables : Settings.raw (fun _ => .missing) fullVariables none = .ok fullSettings := by
  refine Settings.raw_eq_ok.2 ⟨.table [("jwks_url", .text "http://[::1]"),
    ("audiences", .table [("data", .text "d"), ("jobs", .text "j"), ("provisioning", .text "p")]),
    ("api_service_key", .text "k"), ("leeway_secs", .text "3000000000")], ?_, ?_⟩
  · cbv
  · decide +kernel

theorem load_of_fullVariables : Settings.load (fun _ => .missing) fullVariables none = .ok fullConfiguration := by
  have hmode : Settings.checkMode "FULL" = .ok .full := by cbv
  have hurl : Url.check "http://[::1]" = .ok () := by cbv
  have hjwks : Settings.checkJwksUrl .full (some "http://[::1]") = .ok (some "http://[::1]") := by
    rw [Settings.checkJwksUrl, hurl]
  have hkey : Settings.checkServiceKey (fun _ => .missing) .full (some "k") none = .ok "k" := by cbv
  have husers : Settings.checkProvisioners (fun _ => .missing) [] none = .ok ⟨[]⟩ := by cbv
  have hcheck : Settings.check (fun _ => .missing) fullSettings = .ok fullConfiguration :=
    Settings.check_eq_ok.2 ⟨hmode, hjwks, rfl, hkey, husers, rfl, rfl, rfl, rfl⟩
  rw [Settings.load, raw_of_fullVariables]
  exact hcheck

theorem read_user {env : List (String × String)} {t : String} (ht : isOption t = false)
    (henv : valueOf? env configVariable = none) : read env ["user", "--token", t] = .ok ⟨.user (some t), none⟩ := by
  have hinner : readLevel CommandName.user.options (fun _ => false) none Given.nothing ["--token", t] =
      if isOption t then .error .misuse else .ok (⟨[("token", t)], [], 0⟩, none) := rfl
  rw [ht] at hinner
  refine Answers.bind_ok.2 ⟨(Given.nothing, some ("user", ["--token", t])), rfl, ?_⟩
  refine Answers.bind_ok.2 ⟨_, hinner, Answers.bind_ok.2 ⟨.user (some t), rfl, ?_⟩⟩
  rw [show (Given.nothing.value? "config").or (valueOf? env configVariable) = none from henv]
  rfl

theorem started_full : Started (fun _ => .missing) fullVariables ["user", "--token", datedToken]
    ⟨.user (some datedToken), none⟩ fullService where
  parsed := by
    refine read_user ?_ (by decide)
    rw [isOption, datedToken, String.toList_ofList]
    rfl
  configured := ⟨_, load_of_fullVariables, rfl⟩

/-- In 2027 a good token is given, its key is published, and the run says nothing. -/
theorem silent_beyond_now : ∃ o, Started (fun _ => .missing) fullVariables ["user", "--token", datedToken]
      ⟨.user (some datedToken), none⟩ fullService ∧ o.now = 1800000000 ∧
    ¬ Passes fullService o (.user (some datedToken)) ∧
    outcome (fun _ => .missing) fullVariables o ["user", "--token", datedToken] = ⟨101, ""⟩ := by
  let o : Occasion := ⟨fun _ => sampleResponse, .still 0, 1800000000⟩
  obtain ⟨header, hheader, hid⟩ := Option.bind_eq_some_iff.1 dated_opened.keyId?_eq
  have hkeyed : Keyed ⟨"http://[::1]", 3000000, 5000⟩ o .initial (some datedToken) datedToken
      ⟨"k", .rsa Token.Sample.key⟩ :=
    ⟨rfl, header, "k", hheader, hid, keyFor_of_keys sampleResponse_keys _ _⟩
  have hbreaks : Decoder.BreaksOff ⟨3000000000⟩ o.now (some ⟨"k", .rsa Token.Sample.key⟩) true datedToken :=
    ⟨rfl, by decide, _, rfl, _, _, _, dated_vouched, rfl, rfl⟩
  have hfails : Fails fullService o (.user (some datedToken)) .overflow :=
    fails_overflow_iff.2 (.token ⟨_, _, _, _, _, rfl, hkeyed, hbreaks⟩)
  refine ⟨o, started_full, rfl, fun hp => hp.not_fails hfails, ?_⟩
  rw [started_full.outcome_eq o]
  exact ((reports fullService o (.user (some datedToken))).breaks hfails).2

end CommandLine
end DatastoreAccess
