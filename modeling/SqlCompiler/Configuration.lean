import SqlCompiler.KeyPolicy

/-!
# The shared configuration

Two options are shared by all compilations: the policy for reported keys and
the length to which traced statements are cut.  The configuration keeps them
as two numbers, the number of the policy and the length in bytes, where length
zero means that traced statements are not cut.
-/

namespace SqlCompiler

/-- The options that a configuration is set up with. -/
structure Options where
  keyPolicy : KeyPolicy := .identityElsePrimary
  tracedLength : Nat := 200
  deriving DecidableEq, Repr

/-- The stored options. -/
structure Configuration where
  policyNumber : Nat
  tracedLength : Nat
  deriving DecidableEq, Repr

namespace Configuration

def setup (options : Options) : Configuration where
  policyNumber := options.keyPolicy.number
  tracedLength := options.tracedLength

def initial : Configuration :=
  setup {}

def keyPolicy (configuration : Configuration) : Except CompileError KeyPolicy :=
  KeyPolicy.ofNumber configuration.policyNumber

def options (configuration : Configuration) : Except CompileError Options := do
  let keyPolicy ← configuration.keyPolicy
  .ok { keyPolicy, tracedLength := configuration.tracedLength }

/-- The number of bytes to which traced statements are cut, if they are. -/
def tracedLimit (configuration : Configuration) : Option Nat :=
  if configuration.tracedLength = 0 then none else some configuration.tracedLength

@[simp]
theorem keyPolicy_setup (options : Options) :
    (setup options).keyPolicy = .ok options.keyPolicy := by
  simp [keyPolicy, setup]

end Configuration

end SqlCompiler
