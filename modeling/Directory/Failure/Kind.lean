/-!
# Kinds of failure

Every failure has a kind, and the kinds form a hierarchy: a handler for a kind also takes the
failures of the kinds below it. `Kind.line` lists a kind followed by everything above it.
-/

namespace Directory

/-- The failures of the wire client, which speaks the protocol. `client` stands above all others but
`general`; `communication` and what is below it mean that the server was lost. -/
inductive WireFault where
  | general
  | client
  | bind
  | startTls
  | invalidFilter
  | responseTimeout
  | invalidName
  | control
  | communication
  | socketOpen
  | socketSend
  | socketReceive
  | socketClose
  | sessionTerminated
  | unknownResponse
  | referral
deriving DecidableEq, Repr

namespace WireFault

/-- The wire faults. -/
def all : List WireFault :=
  [.general, .client, .bind, .startTls, .invalidFilter, .responseTimeout, .invalidName, .control,
    .communication, .socketOpen, .socketSend, .socketReceive, .socketClose, .sessionTerminated,
    .unknownResponse, .referral]

/-- Every wire fault is listed. -/
theorem mem_all (fault : WireFault) : fault ∈ all := by
  cases fault <;> simp [all]

/-- A failure that means that the server was lost. -/
def isCommunication : WireFault → Bool
  | .communication | .socketOpen | .socketSend | .socketReceive | .socketClose
  | .sessionTerminated | .unknownResponse | .referral => true
  | _ => false

/-- A wire fault followed by everything above it. -/
def line : WireFault → List WireFault
  | .general => [.general]
  | .client => [.client, .general]
  | .communication => [.communication, .client, .general]
  | fault =>
    if fault.isCommunication then [fault, .communication, .client, .general]
    else [fault, .client, .general]

end WireFault

/-- The kinds of failure. Those up to `noSuchObject` report a failed directory operation; those from
`usernameRequired` to `unknownConnection` are refusals of a request; the rest are faults of a caller
or of the wire client. `bindAnd` is a failed bind that is a failure of another kind too. -/
inductive Kind where
  | directory
  | connection
  | noServer
  | operational
  | bind
  | constraint
  | insufficientAccess
  | alreadyExists
  | noSuchObject
  | usernameRequired
  | passwordRequired
  | malformedFilter
  | unsupportedOperator
  | configuration
  | unknownConnection
  | wrongType
  | wrongValue
  | lookup
  | missingKey
  | outOfRange
  | arithmetic
  | overflow
  | unknownMember
  | runtime
  | notImplemented
  | tooDeep
  | system
  | wire (fault : WireFault)
  | bindAnd (other : Kind)
deriving DecidableEq, Repr

namespace Kind

/-- The kinds that are not joined from others. -/
def plain : List Kind :=
  [.directory, .connection, .noServer, .operational, .bind, .constraint, .insufficientAccess,
    .alreadyExists, .noSuchObject, .usernameRequired, .passwordRequired, .malformedFilter,
    .unsupportedOperator, .configuration, .unknownConnection, .wrongType, .wrongValue, .lookup,
    .missingKey, .outOfRange, .arithmetic, .overflow, .unknownMember, .runtime, .notImplemented,
    .tooDeep, .system] ++ WireFault.all.map .wire

/-- The members of one line that are not in another, followed by the other. -/
def joinLines (first second : List Kind) : List Kind :=
  first.filter (!second.contains ·) ++ second

/-- The kind itself followed by the kinds above it, nearest first. -/
def line : Kind → List Kind
  | .directory => [.directory]
  | .connection => [.connection, .directory]
  | .noServer => [.noServer, .connection, .directory]
  | .operational => [.operational, .directory]
  | .bind => [.bind, .operational, .directory]
  | .constraint => [.constraint, .operational, .directory]
  | .insufficientAccess => [.insufficientAccess, .operational, .directory]
  | .alreadyExists => [.alreadyExists, .operational, .directory, .wrongValue]
  | .noSuchObject => [.noSuchObject, .operational, .directory, .wrongValue]
  | .usernameRequired => [.usernameRequired, .wrongValue]
  | .passwordRequired => [.passwordRequired, .wrongValue]
  | .malformedFilter => [.malformedFilter, .wrongValue]
  | .unsupportedOperator => [.unsupportedOperator, .wrongValue]
  | .configuration => [.configuration, .wrongValue]
  | .unknownConnection => [.unknownConnection, .missingKey, .lookup]
  | .wrongType => [.wrongType]
  | .wrongValue => [.wrongValue]
  | .lookup => [.lookup]
  | .missingKey => [.missingKey, .lookup]
  | .outOfRange => [.outOfRange, .lookup]
  | .arithmetic => [.arithmetic]
  | .overflow => [.overflow, .arithmetic]
  | .unknownMember => [.unknownMember]
  | .runtime => [.runtime]
  | .notImplemented => [.notImplemented, .runtime]
  | .tooDeep => [.tooDeep, .runtime]
  | .system => [.system]
  | .wire .control => WireFault.control.line.map .wire ++ [.wrongValue]
  | .wire .socketSend => WireFault.socketSend.line.map .wire ++ [.system]
  | .wire .socketReceive => WireFault.socketReceive.line.map .wire ++ [.system]
  | .wire fault => fault.line.map .wire
  | .bindAnd other => .bindAnd other :: joinLines [.bind, .operational, .directory] other.line

/-- A failure of the first kind is also one of the second. -/
def isA (kind above : Kind) : Bool :=
  kind.line.contains above

/-- A failure of a kind is one of that kind. -/
theorem isA_self (kind : Kind) : kind.isA kind = true := by
  cases kind with
  | wire fault => cases fault <;> decide
  | bindAnd other => simp [isA, line]
  | _ => decide

/-- A joined kind is below that of a failed bind and below the other one, and below nothing else. -/
theorem isA_bindAnd_iff {other above : Kind} :
    (bindAnd other).isA above = true ↔
      above = bindAnd other ∨ above ∈ [bind, operational, directory] ∨ other.isA above = true := by
  unfold isA
  rw [line, joinLines]
  by_cases hmem : above ∈ other.line <;> simp [hmem]

/-- The kind of a failed bind that is also a failure of the given kind. -/
def withBind (kind : Kind) : Kind :=
  if kind.isA .bind then kind else .bindAnd kind

/-- A report of a failed directory operation. -/
def isDirectory (kind : Kind) : Bool :=
  kind.isA .directory

end Kind

end Directory
