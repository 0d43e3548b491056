import DatastoreAccess.Access.Strategy
/-!
# Access.Authorizer — the decisions of the datastore service

Every decision is a demand on a token, put to the strategy of the deployment; provisioning also asks the allowlist.
-/
namespace DatastoreAccess

structure Authorizer where
  strategy : Strategy
  audiences : Audiences
  provisionerRole : String
  provisioners : Allowlist
  deriving DecidableEq, Repr

namespace Authorizer

def ofConfiguration (c : Configuration) : Except AccessError Authorizer :=
  (Strategy.ofConfiguration c).map fun s => ⟨s, c.audiences, c.provisionerRole, c.provisioners⟩

def mode (a : Authorizer) : Mode := a.strategy.mode

/-! ## Demands -/

def userDemand (a : Authorizer) (token : Option String) : Demand :=
  ⟨token, a.audiences.data, Policy.user, none, none⟩

def dataAdministratorDemand (a : Authorizer) (rdn : String) (token : Option String) : Demand :=
  ⟨token, a.audiences.jobs, Policy.accreditation, some Configuration.dataAdministrator, some rdn⟩

def provisionerDemand (a : Authorizer) (token : Option String) : Demand :=
  ⟨token, a.audiences.provisioning, Policy.accreditation, some a.provisionerRole, none⟩

/-! ## Decisions -/

/-- The user of a plain token. -/
def user (a : Authorizer) (o : Occasion) (token : Option String) (st : Resolver.State) :
    Except Failure String × Resolver.State :=
  let (r, st) := a.strategy.authorize o (a.userDemand token) st
  (r.map Grant.userId, st)

/-- Whether a token lets its user administer a datastore. -/
def dataAdministrator (a : Authorizer) (o : Occasion) (rdn : String) (token : Option String) (st : Resolver.State) :
    Except Failure Grant × Resolver.State :=
  a.strategy.authorize o (a.dataAdministratorDemand rdn token) st

/-- The allowlist's verdict on a grant; when nothing is checked it is not asked. -/
def admitted (a : Authorizer) (g : Grant) : Except Failure Grant := do
  if a.mode ≠ .off then (a.provisioners.check g.userId).mapError .refused
  return g

/-- Whether a token lets its user provision datastores. -/
def provisioner (a : Authorizer) (o : Occasion) (token : Option String) (st : Resolver.State) :
    Except Failure Grant × Resolver.State :=
  let (r, st) := a.strategy.authorize o (a.provisionerDemand token) st
  (r.bind a.admitted, st)

def identity (a : Authorizer) (now : UInt64) (g : Grant) (userInfo : Option String) : Except Failure Identity :=
  a.strategy.identity now g userInfo

def serviceKey (a : Authorizer) (candidate : Option String) : Except AccessError Unit :=
  a.strategy.serviceKey candidate

end Authorizer
end DatastoreAccess
