import SqlCompiler.Column

/-!
# Which key is reported

After an insert or a merge a statement reports one key column.  A policy picks
it out of the primary column and the identity column, either of which may be
missing.  Policies are named in words and numbered from one to four.
-/

namespace SqlCompiler

/-- Which key column an insert or a merge reports. -/
inductive KeyPolicy where
  | primary
  | identity
  | primaryElseIdentity
  | identityElsePrimary
  deriving DecidableEq, Repr

namespace KeyPolicy

def number : KeyPolicy → Nat
  | .primary => 1
  | .identity => 2
  | .primaryElseIdentity => 3
  | .identityElsePrimary => 4

def name : KeyPolicy → String
  | .primary => "primary"
  | .identity => "identity"
  | .primaryElseIdentity => "primary_or_else_identity"
  | .identityElsePrimary => "identity_or_else_primary"

def spellings : List (List String × KeyPolicy) :=
  [(["primary"], .primary), (["identity"], .identity),
    (["primaryorelseidentity"], .primaryElseIdentity),
    (["identityorelseprimary"], .identityElsePrimary)]

/-- The policy with a spelling, in any case and with any low lines. -/
def parse (text : String) : Except CompileError KeyPolicy :=
  match Text.lookup spellings (Text.looseKeyword ['_'] text) with
  | some policy => .ok policy
  | none => .error (.unknownKeyPolicy text)

def ofNumber (number : Nat) : Except CompileError KeyPolicy :=
  match number with
  | 1 => .ok .primary
  | 2 => .ok .identity
  | 3 => .ok .primaryElseIdentity
  | 4 => .ok .identityElsePrimary
  | other => .error (.unknownKeyPolicyNumber other)

def resolve (policy : KeyPolicy) (primary identity : Option Column) : Option Column :=
  match policy with
  | .primary => primary
  | .identity => identity
  | .primaryElseIdentity => primary.or identity
  | .identityElsePrimary => identity.or primary

/-- Every policy is found under its own name. -/
theorem parse_name (policy : KeyPolicy) : parse policy.name = .ok policy := by
  cases policy <;> rfl

/-- Every policy is found under its own number. -/
@[simp]
theorem ofNumber_number (policy : KeyPolicy) : ofNumber policy.number = .ok policy := by
  cases policy <;> rfl

end KeyPolicy

end SqlCompiler
