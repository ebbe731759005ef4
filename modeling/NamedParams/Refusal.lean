import NamedParams.Log.Code
import NamedParams.Parameter

/-! Why no parameter can be constructed. -/

namespace NamedParams

/-- A reason to refuse a declaration. -/
inductive Refusal where
  /-- The declared type is none of the known ones. -/
  | unknownType (parameter token : String)
  /-- A key names no attribute that applies to the type. -/
  | inapplicable (parameter key : String) (type : ParameterType)
  /-- The value of an attribute is not acceptable. -/
  | invalidValue (parameter : String) (a : Attribute) (value : String)
      (reason : ValueFault)
  deriving DecidableEq

namespace Refusal

/-- The name of the kind of refusal. -/
def kindName : Refusal → String
  | .unknownType _ _ => "InvalidParameterType"
  | .inapplicable _ _ _ => "InapplicableParameterAttribute"
  | .invalidValue _ _ _ _ => "InvalidParameterAttribute"

/-- The wording of a refusal. -/
def message : Refusal → String
  | .unknownType parameter token => s!"Invalid type '{token}' for parameter '{parameter}'"
  | .inapplicable parameter key type =>
    s!"Attribute '{key}' is not applicable to parameter '{parameter}' of type {type.name}"
  | .invalidValue parameter a value reason =>
    s!"Invalid value {value} for attribute '{a.name}' of parameter '{parameter}': " ++
      reason.message

/-- The parameter that was refused. -/
def parameter : Refusal → String
  | .unknownType parameter _ => parameter
  | .inapplicable parameter _ _ => parameter
  | .invalidValue parameter _ _ _ => parameter

/-- The attribute at fault, if one is. -/
def attribute? : Refusal → Option String
  | .unknownType _ _ => none
  | .inapplicable _ key _ => some key
  | .invalidValue _ a _ _ => some a.name

/-- The code of a refusal; patterns have one of their own. -/
def code : Refusal → Log.Code
  | .unknownType _ _ => .unknownType
  | .inapplicable _ _ _ => .inapplicableAttribute
  | .invalidValue _ _ _ reason => if reason.isPatternFault then .invalidPattern else .invalidValue

/-- The fault of the value, if the value is at fault. -/
def reason? : Refusal → Option ValueFault
  | .invalidValue _ _ _ reason => some reason
  | _ => none

end Refusal

/-- Why a value does not lead to a parameter. -/
inductive Failure where
  /-- The value is no declaration. -/
  | malformed (parameter : String) (fault : DeclarationFault)
  | refused (refusal : Refusal)
  deriving DecidableEq

namespace Failure

/-- The wording of a failure. -/
def message : Failure → String
  | .malformed parameter fault =>
    s!"Malformed declaration for parameter '{parameter}': {fault.message}"
  | .refused refusal => refusal.message

/-- The code of a failure. -/
def code : Failure → Log.Code
  | .malformed _ _ => .malformedDeclaration
  | .refused refusal => refusal.code

/-- The parameter that could not be constructed. -/
def parameter : Failure → String
  | .malformed parameter _ => parameter
  | .refused refusal => refusal.parameter

/-- The wording of what lies behind the failure. -/
def cause? : Failure → Option String
  | .malformed _ fault => some fault.message
  | .refused refusal => refusal.reason?.map ValueFault.message

end Failure

end NamedParams
