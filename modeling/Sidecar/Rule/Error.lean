/-
**What can be wrong with a rule.**

Main definitions:

* `Sidecar.RuleError` — the causes;
* `Sidecar.RuleError.message` — their wording;
* `Sidecar.RuleError.root` — the cause inside the containers and rules around it.
-/

import Sidecar.Text.Quoted

set_option autoImplicit false

namespace Sidecar

/-- Where an operator is written. -/
inductive OperatorContext where
  | labelSelector
  | nodeSelector
  | toleration
deriving DecidableEq

/-- The name of the place in messages. -/
def OperatorContext.describe : OperatorContext → String
  | .labelSelector => "label selector"
  | .nodeSelector => "node selector"
  | .toleration => "toleration"

/-- What can be wrong with a volume. -/
inductive VolumeFault where
  | severalSources
  | invalidSizeLimit (value : String)
deriving DecidableEq

/-- What can be wrong with a mount. -/
inductive MountFault where
  | unknownPropagation (mode : String)
  | unknownRecursiveMode (mode : String)
deriving DecidableEq

/-- What can be wrong with a rule, or with the rules taken together. -/
inductive RuleError where
  | invalidQuantity (value : String)
  | invalidOperator (context : OperatorContext) (operator : String)
  | invalidRequirementValues (context : OperatorContext) (operator : String)
  | invalidEffect (effect : String)
  | invalidPort (port : Int32)
  | invalidProtocol (protocol : String)
  | invalidPullPolicy (policy : String)
  | invalidContainer (name : String) (cause : RuleError)
  | invalidVolume (name : String) (fault : VolumeFault)
  | invalidVolumeMount (name : String) (fault : MountFault)
  | invalidName (name : String)
  | invalidRule (rule : String) (cause : RuleError)
  | duplicateFingerprint (fingerprint first second : String)
deriving DecidableEq

namespace RuleError

/-- The wording for a text that is no quantity. -/
def quantityMessage (value : String) : String :=
  "invalid quantity " ++ Text.quoted value

/-- The wording of the error. -/
def message : RuleError → String
  | .invalidQuantity value => quantityMessage value
  | .invalidOperator context operator =>
    "invalid " ++ context.describe ++ " operator " ++ Text.quoted operator
  | .invalidRequirementValues context operator =>
    context.describe ++ " operator " ++ Text.quoted operator ++ " has the wrong number of values"
  | .invalidEffect effect => "invalid toleration effect " ++ Text.quoted effect
  | .invalidPort port => "invalid container port " ++ toString port.toInt
  | .invalidProtocol protocol => "invalid port protocol " ++ Text.quoted protocol
  | .invalidPullPolicy policy => "invalid image pull policy " ++ Text.quoted policy
  | .invalidContainer name cause =>
    "invalid container " ++ Text.quoted name ++ ": " ++ cause.message
  | .invalidVolume name fault =>
    "invalid volume " ++ Text.quoted name ++ ": " ++ match fault with
      | .severalSources => "more than one volume source is set"
      | .invalidSizeLimit value => quantityMessage value
  | .invalidVolumeMount name fault =>
    "invalid volume mount " ++ Text.quoted name ++ ": " ++ match fault with
      | .unknownPropagation mode => "unknown mount propagation " ++ Text.quoted mode
      | .unknownRecursiveMode mode => "unknown recursive read-only mode " ++ Text.quoted mode
  | .invalidName name =>
    "invalid rule name " ++ Text.quoted name ++ ": must be at most 63 alphanumerics, '-', '_' "
      ++ "or '.', starting and ending with an alphanumeric"
  | .invalidRule rule cause => "invalid inject rule " ++ rule ++ ": " ++ cause.message
  | .duplicateFingerprint fingerprint first second =>
    "inject rules " ++ first ++ " and " ++ second ++ " have the same fingerprint " ++ fingerprint

/-- The cause inside the containers and rules around it. -/
def root : RuleError → RuleError
  | .invalidContainer _ cause => cause.root
  | .invalidRule _ cause => cause.root
  | e => e

end RuleError

end Sidecar
