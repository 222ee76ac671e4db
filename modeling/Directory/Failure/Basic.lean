import Directory.Failure.Kind
import Directory.Value.Basic

/-!
# Failures

A failure has a kind and a text. Reports of failed directory operations also carry what the server
said, and the failure they were raised in place of.
-/

namespace Directory

/-- What the server said about a failed operation: the result code, its textual form, and a free
diagnostic text. -/
structure Detail where
  code : Value
  message : Value
  diagnostic : Value

/-- A failure. `text` is absent where a value was misused, which is a fault of the caller that needs
no words. `cause` is the failure that it was raised in place of. `attempted` lists the hosts that
were tried when no server is available. -/
structure Failure where
  kind : Kind
  text : Option String := none
  detail : Option Detail := none
  cause : Option Failure := none
  attempted : List Value := []

namespace Failure

/-- A value was used where its type or shape does not fit. -/
def misuse (kind : Kind) : Failure :=
  { kind }

/-- A value of the wrong type. -/
def wrongType : Failure := misuse .wrongType

/-- A value of the right type that does not fit. -/
def wrongValue : Failure := misuse .wrongValue

/-- A handler for a kind takes the failure. -/
def isA (failure : Failure) (kind : Kind) : Bool :=
  failure.kind.isA kind

/-- A report of a failed directory operation. -/
def isDirectory (failure : Failure) : Bool :=
  failure.kind.isDirectory

end Failure

/-- A refusal: a request that cannot be carried out, with the reason. -/
inductive Refusal where
  | unsupportedOperator (token : String)
  | unknownBucket (name : String)
  | bareAttribute
  | notAFilter (shown : String)
  | unknownOption (key : String)
  | invalidOption (reason : String)
  | noHosts
  | usernameRequired
  | passwordRequired
  | unknownConnection (name : String)
  | pageTooSmall
  | entryWithoutName
  | entryWithoutClass
  | blankNode
deriving DecidableEq, Repr

namespace Refusal

/-- The kind of failure that a refusal is. -/
def kind : Refusal → Kind
  | .unsupportedOperator _ => .unsupportedOperator
  | .unknownBucket _ => .wrongValue
  | .bareAttribute => .wrongType
  | .notAFilter _ => .wrongType
  | .unknownOption _ => .configuration
  | .invalidOption _ => .configuration
  | .noHosts => .configuration
  | .usernameRequired => .usernameRequired
  | .passwordRequired => .passwordRequired
  | .unknownConnection _ => .unknownConnection
  | .pageTooSmall => .wrongValue
  | .entryWithoutName => .wrongValue
  | .entryWithoutClass => .wrongValue
  | .blankNode => .notImplemented

/-- The words of a refusal. -/
def text : Refusal → String
  | .unsupportedOperator token => "Invalid LDAP filter operator ['" ++ token ++ "']"
  | .unknownBucket name => "Invalid filter bucket [" ++ name ++ "]"
  | .bareAttribute => "where() requires an operator or a value"
  | .notAFilter shown => "Cannot assemble '" ++ shown ++ "' - not a filter node"
  | .unknownOption key => "Option [" ++ key ++ "] does not exist"
  | .invalidOption reason => reason
  | .noHosts => "No LDAP hosts have been configured"
  | .usernameRequired => "A username must be specified."
  | .passwordRequired => "A password must be specified."
  | .unknownConnection name => "The LDAP connection [" ++ name ++ "] does not exist"
  | .pageTooSmall => "per_page must be at least 1"
  | .entryWithoutName => "A new LDAP entry must have a distinguished name (dn)"
  | .entryWithoutClass => "A new LDAP entry must have at least one objectclass"
  | .blankNode => ""

/-- The failure that a refusal raises. -/
def toFailure (refusal : Refusal) : Failure :=
  { kind := refusal.kind, text := some refusal.text }

end Refusal

end Directory
