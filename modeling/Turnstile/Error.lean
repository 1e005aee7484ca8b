import Turnstile.Time.Instant
import Turnstile.Text.Quoted

/-!
Why a request is refused: errors of the service with the text kept for operators, and the errors shown
to callers, which say no more than a caller may know. `ServiceError.toApi` decides what is shown.
-/

namespace Turnstile

/-- What a database reports. -/
inductive DatabaseError where
  | noRow
  | badColumn
  | reported (code message : String)
  deriving DecidableEq, Repr

namespace DatabaseError

def message : DatabaseError → String
  | .noRow => "no rows returned by a query that expected to return at least one row"
  | .badColumn => "error occurred while decoding column"
  | .reported _ message => "error returned from database: " ++ message

end DatabaseError

/-- What a key-value server or the conversion of its answer reports. -/
inductive CacheError where
  | unexpectedType
  | reported (line : String)
  deriving DecidableEq, Repr

namespace CacheError

/-- Names of the error codes that servers send by themselves. -/
def knownCode? : String → Option String
  | "ERR" => some "ResponseError"
  | "EXECABORT" => some "ExecAbortError"
  | "LOADING" => some "BusyLoadingError"
  | "NOSCRIPT" => some "NoScriptError"
  | "MOVED" => some "Moved"
  | "ASK" => some "Ask"
  | "TRYAGAIN" => some "TryAgain"
  | "CLUSTERDOWN" => some "ClusterDown"
  | "CROSSSLOT" => some "CrossSlot"
  | "MASTERDOWN" => some "MasterDown"
  | "READONLY" => some "ReadOnly"
  | "NOTBUSY" => some "NotBusy"
  | "NOSUB" => some "NoSub"
  | "NOPERM" => some "NoPerm"
  | _ => none

/-- An error line is a code and, after a space, a detail. -/
def message : CacheError → String
  | .unexpectedType => "bad type- TypeError"
  | .reported line =>
    let cs := line.toList
    let code := String.ofList (cs.takeWhile (· ≠ ' '))
    let detail? := match cs.dropWhile (· ≠ ' ') with
      | _ :: detail => some (String.ofList detail)
      | [] => none
    match knownCode? code with
    | some kind =>
      "An error was signalled by the server - " ++ kind ++
        (match detail? with
          | some detail => ": " ++ detail
          | none => "")
    | none => code ++ ": " ++ detail?.getD "Unknown extension error encountered"

end CacheError

/-- A field of a request that breaks a rule, and the text of that rule. -/
structure FieldError where
  field : String
  message : String
  deriving DecidableEq, Repr

namespace FieldError

/-- The broken rules, a line each, in the order of the lines. -/
def text (es : List FieldError) : String :=
  "\n".intercalate ((es.map fun e => e.field ++ ": " ++ e.message).mergeSort (· ≤ ·))

end FieldError

/-- Errors of the service, with what operators need to know. -/
inductive ServiceError where
  | database (cause : DatabaseError)
  | cache (cause : CacheError)
  | internal (cause : String)
  | validation (fields : List FieldError)
  | invalidToken (reason : String)
  | sessionNotFound
  | sessionMismatch (sessionId : String)
  | accountNotFound
  | userNotFound (userId : Int)
  | sessionUserNotFound (userId : Int)
  | incorrectPassword
  | loginLocked (lockedUntil : Instant)
  | maxAttemptsReached (userId : Int)
  | accountBlocked
  | accountNotVerified
  | roleNotAssigned (userId : Int)
  | accessDenied (userId : Int) (elementId : String)
  | duplicateRegistration
  | invalidElementId (text : String)
  | invalidPolicy (reason : String)
  | notFound (entity : String)
  | invalidReference (reason : String)
  deriving DecidableEq, Repr

/-- Errors as callers see them. A message shown to callers is part of the error, except where only a
general message is shown; the text of those is for operators. -/
inductive ApiError where
  | validation (fields : List FieldError)
  | badRequest (code message : String)
  | unauthorized (code message : String)
  | forbidden (code message : String)
  | internal (cause : String)
  | configuration (cause : String)
  deriving DecidableEq, Repr

namespace ApiError

/-- The name of the kind of an error. -/
def kind : ApiError → String
  | .validation _ => "ValidationError"
  | .badRequest _ _ => "BadRequest"
  | .unauthorized _ _ => "Unauthorized"
  | .forbidden _ _ => "Forbidden"
  | .internal _ => "InternalError"
  | .configuration _ => "ConfigError"

/-- The only text that a failure of the service itself shows. -/
def genericMessage : String := "Oops, something went wrong. Please try again later."

def status : ApiError → Nat
  | .validation _ | .badRequest _ _ => 400
  | .unauthorized _ _ => 401
  | .forbidden _ _ => 403
  | .internal _ | .configuration _ => 500

def code : ApiError → String
  | .validation _ => "VALIDATION_ERROR"
  | .badRequest code _ | .unauthorized code _ | .forbidden code _ => code
  | .internal _ => "INTERNAL_ERROR"
  | .configuration _ => "CONFIG_ERROR"

/-- The text a caller sees. -/
def publicMessage : ApiError → String
  | .validation _ => "Validation error"
  | .badRequest _ message | .unauthorized _ message | .forbidden _ message => message
  | .internal _ | .configuration _ => genericMessage

/-- The text for operators. -/
def message : ApiError → String
  | .validation fields => "Validation error: " ++ FieldError.text fields
  | .badRequest code message => "Bad request [" ++ code ++ "]: " ++ message
  | .unauthorized code message => "Unauthorized [" ++ code ++ "]: " ++ message
  | .forbidden code message => "Forbidden [" ++ code ++ "]: " ++ message
  | .internal cause => "Internal server error: " ++ cause
  | .configuration cause => "Configuration error: " ++ cause

end ApiError

namespace ServiceError

/-- The name of the kind of an error. -/
def kind : ServiceError → String
  | .database _ => "Database"
  | .cache _ => "Redis"
  | .internal _ => "Internal"
  | .validation _ => "Validation"
  | .invalidToken _ => "InvalidToken"
  | .sessionNotFound => "SessionNotFound"
  | .sessionMismatch _ => "SessionMismatch"
  | .accountNotFound => "AccountNotFound"
  | .userNotFound _ => "UserNotFound"
  | .sessionUserNotFound _ => "SessionUserNotFound"
  | .incorrectPassword => "IncorrectPassword"
  | .loginLocked _ => "LoginLocked"
  | .maxAttemptsReached _ => "MaxAttemptsReached"
  | .accountBlocked => "AccountBlocked"
  | .accountNotVerified => "AccountNotVerified"
  | .roleNotAssigned _ => "RoleNotAssigned"
  | .accessDenied _ _ => "AccessDenied"
  | .duplicateRegistration => "DuplicateRegistration"
  | .invalidElementId _ => "InvalidElementId"
  | .invalidPolicy _ => "InvalidPolicy"
  | .notFound _ => "NotFound"
  | .invalidReference _ => "InvalidReference"

/-- The text for operators. -/
def message : ServiceError → String
  | .database cause => "Database error: " ++ cause.message
  | .cache cause => "Redis error: " ++ cause.message
  | .internal cause => "Internal server error: " ++ cause
  | .validation fields => "Validation error: " ++ FieldError.text fields
  | .invalidToken reason => "Invalid token: " ++ reason
  | .sessionNotFound => "Session not found"
  | .sessionMismatch id => "Session " ++ id ++ " used from a different client"
  | .accountNotFound => "Account not found"
  | .userNotFound id => "User " ++ toString id ++ " not found"
  | .sessionUserNotFound id => "Session owner " ++ toString id ++ " no longer exists"
  | .incorrectPassword => "Password is incorrect"
  | .loginLocked lockedUntil => "Login locked until " ++ lockedUntil.toSpacedText
  | .maxAttemptsReached id => "Max login attempts reached for user " ++ toString id
  | .accountBlocked => "Account is blocked"
  | .accountNotVerified => "Account is not verified"
  | .roleNotAssigned id => "No role assigned to user " ++ toString id
  | .accessDenied id element =>
    "User " ++ toString id ++ " is not authorized to access " ++ element
  | .duplicateRegistration => "Identity already registered"
  | .invalidElementId text => "Invalid element id: " ++ text
  | .invalidPolicy reason => "Invalid policy rule: " ++ reason
  | .notFound entity => entity ++ " not found"
  | .invalidReference reason => "Invalid reference: " ++ reason

/-- The code by which programs tell errors apart. -/
def code : ServiceError → String
  | .database _ | .cache _ | .internal _ | .invalidElementId _ | .invalidPolicy _ =>
    "INTERNAL_ERROR"
  | .validation _ => "VALIDATION_ERROR"
  | .invalidToken _ => "INVALID_TOKEN"
  | .sessionNotFound | .sessionUserNotFound _ => "SESSION_NOT_FOUND"
  | .sessionMismatch _ => "SESSION_MISMATCH"
  | .accountNotFound => "ACCOUNT_NOT_FOUND"
  | .userNotFound _ => "USER_NOT_FOUND"
  | .incorrectPassword => "INCORRECT_PASSWORD"
  | .loginLocked _ => "LOGIN_LOCKED"
  | .maxAttemptsReached _ => "MAX_ATTEMPT_REACHED"
  | .accountBlocked => "ACCOUNT_BLOCKED"
  | .accountNotVerified => "NOT_VERIFIED"
  | .roleNotAssigned _ => "ROLE_NOT_ASSIGNED"
  | .accessDenied _ _ => "ACCESS_DENIED"
  | .duplicateRegistration => "DUPLICATE_REGISTRATION"
  | .notFound _ => "NOT_FOUND"
  | .invalidReference _ => "INVALID_REFERENCE"

/-- What a caller is told of an error. -/
def toApi (e : ServiceError) : ApiError :=
  match e with
  | .database cause => .internal cause.message
  | .cache cause => .internal cause.message
  | .internal cause => .internal cause
  | .validation fields => .validation fields
  | .invalidElementId _ | .invalidPolicy _ => .internal e.message
  | .invalidToken _ => .unauthorized e.code "Unauthorized"
  | .sessionMismatch _ =>
    .unauthorized e.code "Session is no longer valid, please login again"
  | .accessDenied _ element => .unauthorized e.code ("Not authorized to access " ++ element)
  | .sessionNotFound | .sessionUserNotFound _ =>
    .forbidden e.code "Session not found, please login again"
  | .maxAttemptsReached _ =>
    .forbidden e.code "Max attempt reached, we have blocked your account"
  | .accountBlocked =>
    .forbidden e.code "Your account is blocked, please contact the administrator"
  | .accountNotVerified => .forbidden e.code "Please verify your account first"
  | .roleNotAssigned _ => .forbidden e.code "No role has been assigned to your account"
  | .accountNotFound => .badRequest e.code "Cannot find your account"
  | .userNotFound _ => .badRequest e.code "User not found"
  | .incorrectPassword => .badRequest e.code "Password is incorrect"
  | .loginLocked lockedUntil =>
    .badRequest e.code
      ("Too many login attempts, your account is locked until " ++ lockedUntil.toSecondsText)
  | .duplicateRegistration => .badRequest e.code "Email or phone is already registered"
  | .notFound entity => .badRequest e.code (entity ++ " not found")
  | .invalidReference reason => .badRequest e.code reason

end ServiceError

/-- What must not happen and ends a call without an answer: a pattern that cannot be used only shows
when it is applied, a path would be cut inside a character, a time lies outside the calendar, or the
list of web origins holds the wildcard by itself. -/
inductive Fault where
  | patternUnusable
  | characterCut
  | timeOutOfRange
  | wildcardOrigin
  deriving DecidableEq, Repr

/-- How a call fails: with an error of the service, or by a fault. -/
inductive Failure where
  | error (e : ServiceError)
  | fault (f : Fault)
  deriving DecidableEq, Repr

end Turnstile
