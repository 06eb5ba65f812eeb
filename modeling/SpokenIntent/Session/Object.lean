import SpokenIntent.Session.Bridge

/-!
The bridge as the host sees it: an object with methods that are called by name with values of any
kind. All checking is done here. A call that is rejected has no effect at all.
-/

namespace SpokenIntent

inductive ArgumentError where
  | arity (method : String) (expected got : Nat)
  | wrongType (method : String) (index : Nat) (expected got : String)
  | notCallable (method : String)
  | unknownMethod (name : String)
  deriving DecidableEq

def ArgumentError.message : ArgumentError → String
  | .arity method expected got => s!"{method} expects {expected} argument(s), got {got}"
  | .wrongType method index expected got =>
    s!"{method}: argument {index} must be of type {expected}, got {got}"
  | .notCallable method => s!"{method} expects a callable argument"
  | .unknownMethod name => s!"unknown method `{name}`"

inductive ObjectCall where
  | addIntent (phrase intentId : String)
  | addPhrase (phrase : String)
  | start
  | stop
  | on (channel : Channel) (callback : HostFunction)
  | isRunning
  deriving DecidableEq

namespace ObjectCall

/-- The arguments as strings, or the first one that is not. -/
def strings (method : String) (index : Nat) : List HostValue → Except ArgumentError (List String)
  | [] => .ok []
  | value :: rest =>
    match value.asString? with
    | none => .error (.wrongType method index "string" value.typeName)
    | some s => (strings method (index + 1) rest).map (s :: ·)

/-- Exactly `count` strings; their number is checked first. -/
def stringArguments (method : String) (count : Nat) (args : List HostValue) :
    Except ArgumentError (List String) :=
  if args.length = count then strings method 0 args else .error (.arity method count args.length)

/-- The first argument as a function; more arguments do not matter. -/
def callable (method : String) (args : List HostValue) : Except ArgumentError HostFunction :=
  match args.head?.bind HostValue.asFunction? with
  | some f => .ok f
  | none => .error (.notCallable method)

def setterChannel? (method : String) : Option Channel :=
  if method = "onStarted" then some .started
  else if method = "onStopped" then some .stopped
  else if method = "onRecognizing" then some .recognizing
  else if method = "onRecognized" then some .recognized
  else if method = "onCancelled" then some .canceled
  else none

def parse (method : String) (args : List HostValue) : Except ArgumentError ObjectCall :=
  if method = "addIntent" then
    match stringArguments method 2 args with
    | .error e => .error e
    | .ok [phrase, intentId] => .ok (.addIntent phrase intentId)
    | .ok _ => .error (.arity method 2 args.length)
  else if method = "addPhrase" then
    match stringArguments method 1 args with
    | .error e => .error e
    | .ok [phrase] => .ok (.addPhrase phrase)
    | .ok _ => .error (.arity method 1 args.length)
  else if method = "startContinuousRecognition" || method = "startRecognition" then .ok .start
  else if method = "stopContinuousRecognition" || method = "stopRecognition" then .ok .stop
  else if method = "hasSessionStarted" then .ok .isRunning
  else
    match setterChannel? method with
    | some channel => (callable method args).map (.on channel)
    | none => .error (.unknownMethod method)

def perform {ε : Type} [Engine ε] : ObjectCall → Session.Act ε HostFunction HostValue
  | .addIntent phrase intentId => do
    Session.addIntent phrase intentId
    pure .undefined
  | .addPhrase phrase => do
    Session.addPhrase phrase
    pure .undefined
  | .start => do
    Session.start
    pure .undefined
  | .stop => do
    Session.stop
    pure .undefined
  | .on channel callback => do
    Session.on channel callback
    pure .undefined
  | .isRunning => do pure (.bool (← Work.read).bridge.running)

end ObjectCall

/-- Anything that can go wrong between the host and a bridge. -/
inductive Failure where
  | credentials (e : CredentialsError)
  | argument (e : ArgumentError)
  | payload (e : PayloadError)
  | engine (e : EngineError)
  | other (reason : String)
  deriving DecidableEq

def Failure.message : Failure → String
  | .credentials e => e.message
  | .argument e => e.message
  | .payload e => e.message
  | .engine e => e.message
  | .other reason => reason

namespace Session

variable {ε : Type} [Engine ε]

/-- A new object from the arguments of its construction, of which the first counts. The engine is
made only when there are credentials for it. -/
def construct {σ : Type} (factory : EngineFactory ε) (args : List HostValue) :
    Work σ (BridgeTask HostFunction) (Except Failure (Session ε HostFunction)) :=
  match Credentials.ofHostValue args.head? with
  | .error e => pure (.error (.credentials e))
  | .ok credentials => do
    match ← establish factory credentials with
    | .error e => pure (.error (.engine e))
    | .ok session => pure (.ok session)

def invoke (method : String) (args : List HostValue) :
    Act ε HostFunction (Except ArgumentError HostValue) := do
  match ObjectCall.parse method args with
  | .error e => pure (.error e)
  | .ok call => do pure (.ok (← call.perform))

end Session

end SpokenIntent
