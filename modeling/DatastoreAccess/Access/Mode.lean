/-!
# Access.Mode — how much is checked

`full` checks everything, `skipSignature` all but the signature, `off` nothing.
-/
namespace DatastoreAccess

inductive Mode where
  | full
  | skipSignature
  | off
  deriving DecidableEq, Repr

namespace Mode

def name : Mode → String
  | .full => "FULL"
  | .skipSignature => "SKIP_SIGNATURE"
  | .off => "OFF"

def ofName? : String → Option Mode
  | "FULL" => some .full
  | "SKIP_SIGNATURE" => some .skipSignature
  | "OFF" => some .off
  | _ => none

theorem ofName?_eq_some {s : String} {m : Mode} : ofName? s = some m ↔ s = m.name := by
  constructor
  · intro h
    unfold ofName? at h
    split at h <;> simp_all [name] <;> (cases h; rfl)
  · rintro rfl
    cases m <;> rfl

end Mode
end DatastoreAccess
