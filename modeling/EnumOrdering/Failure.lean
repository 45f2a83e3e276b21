/-!
# Failures

What can go wrong when enumerations are loaded or asked for. The first two
concern the source of the enumerations and leave what is in use untouched; the
other two concern a request and are the asker's to mend.
-/

namespace EnumOrdering

/-- A failure to load or to answer. -/
inductive Failure
  | sourceUnavailable (origin reason : String)
  | malformedDefinition (origin reason : String)
  | unknownEnumeration (name : String)
  | invalidOperation (code : String)
deriving Repr, DecidableEq

namespace Failure

/-- The wording of a failure. -/
def message : Failure → String
  | .sourceUnavailable origin reason => s!"enumeration source unavailable ({origin}): {reason}"
  | .malformedDefinition origin reason => s!"malformed enumeration definition ({origin}): {reason}"
  | .unknownEnumeration name => s!"no such enumeration: {name}"
  | .invalidOperation code => s!"invalid reload operation: {code}"

/-- Whether the request is at fault, as against the source. -/
def isRequestError : Failure → Bool
  | .sourceUnavailable .. => false
  | .malformedDefinition .. => false
  | .unknownEnumeration .. => true
  | .invalidOperation .. => true

end Failure

end EnumOrdering
