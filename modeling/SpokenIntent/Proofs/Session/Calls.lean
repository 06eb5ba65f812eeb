import Mathlib.Data.List.Basic
import SpokenIntent.Proofs.Host.Effects
import SpokenIntent.Session.Object

/-!
Calls of a bridge object by name. A call is rejected for exactly three reasons, and then nothing at all has
happened; any other call does what one call of the bridge does.
-/

namespace SpokenIntent

namespace ObjectCall

/-! ### Which calls are taken up, and which are rejected -/

def setterName : Channel → String
  | .started => "onStarted"
  | .stopped => "onStopped"
  | .recognizing => "onRecognizing"
  | .recognized => "onRecognized"
  | .canceled => "onCancelled"

/-- The methods that take texts and nothing else, with the number of these. -/
def texted : List (String × Nat) := [("addIntent", 2), ("addPhrase", 1)]

def names : List String := [
  "addIntent", "addPhrase",
  "startContinuousRecognition", "startRecognition", "stopContinuousRecognition", "stopRecognition",
  "hasSessionStarted",
  "onStarted", "onStopped", "onRecognizing", "onRecognized", "onCancelled"]

/-- What a call asks of the bridge. Some methods have two names; those that need no arguments take any, and those
that set a callback take any after it. -/
inductive Accepts : String → List HostValue → ObjectCall → Prop where
  | addIntent (phrase intentId : String) :
      Accepts "addIntent" [.string phrase, .string intentId] (.addIntent phrase intentId)
  | addPhrase (phrase : String) : Accepts "addPhrase" [.string phrase] (.addPhrase phrase)
  | start {method : String} (named : method ∈ ["startContinuousRecognition", "startRecognition"])
      (args : List HostValue) : Accepts method args .start
  | stop {method : String} (named : method ∈ ["stopContinuousRecognition", "stopRecognition"])
      (args : List HostValue) : Accepts method args .stop
  | isRunning (args : List HostValue) : Accepts "hasSessionStarted" args .isRunning
  | on (channel : Channel) (callback : HostFunction) (more : List HostValue) :
      Accepts (setterName channel) (.function callback :: more) (.on channel callback)

/-- Why a call is rejected: its name, the number of its arguments, the first of them that is not a text, or that
the first one is not a function. -/
inductive Rejects : String → List HostValue → ArgumentError → Prop where
  | unknown {method : String} (unknown : method ∉ names) (args : List HostValue) :
      Rejects method args (.unknownMethod method)
  | arity {method : String} {count : Nat} (takes : (method, count) ∈ texted) {args : List HostValue}
      (wrong : args.length ≠ count) : Rejects method args (.arity method count args.length)
  | wrongType {method : String} {count : Nat} (takes : (method, count) ∈ texted) (texts : List String)
      {value : HostValue} (notText : ∀ s, value ≠ .string s) {more : List HostValue}
      (exact : (texts.map HostValue.string ++ value :: more).length = count) :
      Rejects method (texts.map HostValue.string ++ value :: more)
        (.wrongType method texts.length "string" value.typeName)
  | notCallable (channel : Channel) {args : List HostValue} (none : ∀ f more, args ≠ .function f :: more) :
      Rejects (setterName channel) args (.notCallable (setterName channel))

/-! ### Texts -/

theorem asString?_none {value : HostValue} (notText : ∀ s, value ≠ .string s) : value.asString? = none := by
  cases value with
  | string s => exact absurd rfl (notText s)
  | _ => rfl

theorem strings_first (method : String) (index : Nat) (texts : List String) {value : HostValue}
    (notText : ∀ s, value ≠ .string s) (more : List HostValue) :
    strings method index (texts.map .string ++ value :: more) =
      .error (.wrongType method (index + texts.length) "string" value.typeName) := by
  induction texts generalizing index with
  | nil => simp [strings, asString?_none notText]
  | cons s texts ih =>
      rw [List.map_cons, List.cons_append, strings, HostValue.asString?, ih]
      rw [List.length_cons, Nat.add_right_comm, ← Nat.add_assoc]
      rfl

/-- Either all arguments are texts, or there is a first one that is not. -/
theorem texts_or_first (args : List HostValue) :
    (∃ texts : List String, args = texts.map .string) ∨
      ∃ (texts : List String) (value : HostValue) (more : List HostValue),
        args = texts.map .string ++ value :: more ∧ ∀ s, value ≠ .string s := by
  induction args with
  | nil => exact .inl ⟨[], rfl⟩
  | cons value rest ih =>
      by_cases text : ∃ s, value = .string s
      · rcases text with ⟨s, rfl⟩
        rcases ih with ⟨texts, rfl⟩ | ⟨texts, first, more, rfl, notText⟩
        · exact .inl ⟨s :: texts, rfl⟩
        · exact .inr ⟨s :: texts, first, more, rfl, notText⟩
      · exact .inr ⟨[], value, rest, rfl, fun s same => text ⟨s, same⟩⟩

theorem stringArguments_arity {method : String} {count : Nat} {args : List HostValue}
    (wrong : args.length ≠ count) : stringArguments method count args = .error (.arity method count args.length) :=
  if_neg wrong

theorem stringArguments_first {method : String} {count : Nat} (texts : List String) {value : HostValue}
    (notText : ∀ s, value ≠ .string s) {more : List HostValue}
    (exact : (texts.map HostValue.string ++ value :: more).length = count) :
    stringArguments method count (texts.map .string ++ value :: more) =
      .error (.wrongType method texts.length "string" value.typeName) := by
  rw [stringArguments, if_pos exact, strings_first method 0 texts notText, Nat.zero_add]

/-- What becomes of the arguments of a method that takes texts. -/
theorem texted_rejects {method : String} {count : Nat} (takes : (method, count) ∈ texted) {args : List HostValue}
    {error : ArgumentError} (failed : stringArguments method count args = .error error) :
    parse method args = .error error := by
  simp only [texted, List.mem_cons, Prod.mk.injEq, List.not_mem_nil, or_false] at takes
  rcases takes with ⟨rfl, rfl⟩ | ⟨rfl, rfl⟩
  · simp [parse, failed]
  · simp [parse, failed]

/-! ### Setters -/

theorem parse_setter (channel : Channel) (args : List HostValue) :
    parse (setterName channel) args = (callable (setterName channel) args).map (.on channel) := by
  cases channel <;> simp [parse, setterName, setterChannel?]

theorem callable_none {method : String} {args : List HostValue} (none : ∀ f more, args ≠ .function f :: more) :
    callable method args = .error (.notCallable method) := by
  cases args with
  | nil => rfl
  | cons value more =>
      cases value with
      | function f => exact absurd rfl (none f more)
      | _ => rfl

/-! ### Calls -/

theorem parse_accepts {method : String} {args : List HostValue} {call : ObjectCall}
    (accepts : Accepts method args call) : parse method args = .ok call := by
  cases accepts with
  | addIntent phrase intentId => rfl
  | addPhrase phrase => rfl
  | start named args =>
      simp only [List.mem_cons, List.not_mem_nil, or_false] at named
      rcases named with rfl | rfl <;> simp [parse]
  | stop named args =>
      simp only [List.mem_cons, List.not_mem_nil, or_false] at named
      rcases named with rfl | rfl <;> simp [parse]
  | isRunning args => simp [parse]
  | on channel callback more =>
      rw [parse_setter]
      rfl

theorem parse_rejects {method : String} {args : List HostValue} {error : ArgumentError}
    (rejects : Rejects method args error) : parse method args = .error error := by
  cases rejects with
  | unknown unknown args =>
      simp only [names, List.mem_cons, List.not_mem_nil, or_false, not_or] at unknown
      simp [parse, setterChannel?, unknown]
  | arity takes wrong => exact texted_rejects takes (stringArguments_arity wrong)
  | wrongType takes texts notText exact => exact texted_rejects takes (stringArguments_first texts notText exact)
  | notCallable channel none =>
      rw [parse_setter, callable_none none]
      rfl

theorem Accepts.not_rejects {method : String} {args : List HostValue} {call : ObjectCall}
    (accepts : Accepts method args call) (error : ArgumentError) : ¬ Rejects method args error := by
  intro rejects
  have parsed := parse_accepts accepts
  rw [parse_rejects rejects] at parsed
  cases parsed

theorem Accepts.unique {method : String} {args : List HostValue} {call other : ObjectCall}
    (accepts : Accepts method args call) (too : Accepts method args other) : call = other :=
  Except.ok.inj ((parse_accepts accepts).symm.trans (parse_accepts too))

theorem Rejects.unique {method : String} {args : List HostValue} {error other : ArgumentError}
    (rejects : Rejects method args error) (too : Rejects method args other) : error = other :=
  Except.error.inj ((parse_rejects rejects).symm.trans (parse_rejects too))

theorem texted_decided {method : String} {count : Nat} (takes : (method, count) ∈ texted) (args : List HostValue) :
    (∃ texts : List String, texts.length = count ∧ args = texts.map .string) ∨ ∃ error, Rejects method args error := by
  by_cases exact : args.length = count
  · rcases texts_or_first args with ⟨texts, rfl⟩ | ⟨texts, value, more, rfl, notText⟩
    · exact .inl ⟨texts, by simpa using exact, rfl⟩
    · exact .inr ⟨_, .wrongType takes texts notText exact⟩
  · exact .inr ⟨_, .arity takes exact⟩

theorem setter_decided (channel : Channel) (args : List HostValue) :
    (∃ call, Accepts (setterName channel) args call) ∨ ∃ error, Rejects (setterName channel) args error := by
  by_cases function : ∃ f more, args = .function f :: more
  · rcases function with ⟨f, more, rfl⟩
    exact .inl ⟨_, .on channel f more⟩
  · exact .inr ⟨_, .notCallable channel fun f more same => function ⟨f, more, same⟩⟩

/-- Every call is one or the other. -/
theorem decided (method : String) (args : List HostValue) :
    (∃ call, Accepts method args call) ∨ ∃ error, Rejects method args error := by
  by_cases known : method ∈ names
  · simp only [names, List.mem_cons, List.not_mem_nil, or_false] at known
    -- one case for each name, in the order of `names`
    rcases known with rfl | rfl | rfl | rfl | rfl | rfl | rfl | rfl | rfl | rfl | rfl | rfl
    · rcases @texted_decided "addIntent" 2 (by decide) args with ⟨texts, two, rfl⟩ | rejects
      · rcases List.length_eq_two.mp two with ⟨phrase, intentId, rfl⟩
        exact .inl ⟨_, .addIntent phrase intentId⟩
      · exact .inr rejects
    · rcases @texted_decided "addPhrase" 1 (by decide) args with ⟨texts, one, rfl⟩ | rejects
      · rcases List.length_eq_one_iff.mp one with ⟨phrase, rfl⟩
        exact .inl ⟨_, .addPhrase phrase⟩
      · exact .inr rejects
    · exact .inl ⟨_, .start (by decide) args⟩
    · exact .inl ⟨_, .start (by decide) args⟩
    · exact .inl ⟨_, .stop (by decide) args⟩
    · exact .inl ⟨_, .stop (by decide) args⟩
    · exact .inl ⟨_, .isRunning args⟩
    · exact setter_decided .started args
    · exact setter_decided .stopped args
    · exact setter_decided .recognizing args
    · exact setter_decided .recognized args
    · exact setter_decided .canceled args
  · exact .inr ⟨_, .unknown known args⟩

/-! ### What calls do -/

section Effects
variable {ε : Type} [Engine ε]

/-- The call of the bridge that a call by name comes to. -/
def direct : ObjectCall → Session.Act ε HostFunction Unit
  | .addIntent phrase intentId => Session.addIntent phrase intentId
  | .addPhrase phrase => Session.addPhrase phrase
  | .start => Session.start
  | .stop => Session.stop
  | .on channel callback => Session.on channel callback
  | .isRunning => pure ()

/-- What the host is given back. -/
def answer (call : ObjectCall) (s : Session ε HostFunction) : HostValue :=
  match call with
  | .isRunning => .bool s.bridge.running
  | _ => .undefined

theorem perform_direct (h : Host (Session ε HostFunction) (BridgeTask HostFunction)) (call : ObjectCall) :
    h.perform call.perform =
      ((h.perform call.direct).1.map fun _ => call.answer h.world, (h.perform call.direct).2) := by
  cases call with
  | isRunning =>
      simp only [direct, Host.perform_pure]
      exact Host.perform_pure h (HostValue.bool h.world.bridge.running)
  | _ => exact Host.perform_bind_pure h _ fun _ => HostValue.undefined

end Effects

end ObjectCall

namespace Session
variable {ε : Type} [Engine ε]

theorem invoke_rejected {method : String} {args : List HostValue} {error : ArgumentError}
    (rejects : ObjectCall.Rejects method args error) :
    (invoke method args : Act ε HostFunction _) = pure (.error error) := by
  rw [invoke, ObjectCall.parse_rejects rejects]

theorem invoke_accepted {method : String} {args : List HostValue} {call : ObjectCall}
    (accepts : ObjectCall.Accepts method args call)
    (h : Host (Session ε HostFunction) (BridgeTask HostFunction)) :
    h.perform (invoke method args) =
      ((h.perform call.direct).1.map fun _ => .ok (call.answer h.world), (h.perform call.direct).2) := by
  rw [invoke, ObjectCall.parse_accepts accepts]
  simp only [Host.perform_bind_pure, ObjectCall.perform_direct]
  cases (h.perform call.direct).1 <;> rfl

/-- A call by name, in whatever state the engine, the bridge and the host are. It is rejected for one of the
reasons there are and no other, and is then nothing but the error, wherever it is made: everything stays as it
was. Otherwise it does what one call of the bridge does, and gives the answer of that; if the engine panics, so
does the call. -/
theorem invoke_decided (h : Host (Session ε HostFunction) (BridgeTask HostFunction)) (method : String)
    (args : List HostValue) :
    (∀ error, (h.perform (invoke method args)).1 = .ok (.error error) ↔ ObjectCall.Rejects method args error) ∧
    (∀ error, ObjectCall.Rejects method args error →
      (invoke method args : Act ε HostFunction _) = pure (.error error) ∧ (h.perform (invoke method args)).2 = h) ∧
    ((∀ error, ¬ ObjectCall.Rejects method args error) →
      ∃ call, ObjectCall.Accepts method args call ∧
        (h.perform (invoke method args)).2 = (h.perform call.direct).2 ∧
        (h.perform (invoke method args)).1 = (h.perform call.direct).1.map fun _ => .ok (call.answer h.world)) := by
  rcases ObjectCall.decided method args with ⟨call, accepts⟩ | ⟨error, rejects⟩
  · have taken := accepts.not_rejects
    rw [invoke_accepted accepts h]
    refine ⟨fun error => ⟨?_, fun rejects => absurd rejects (taken error)⟩,
      fun error rejects => absurd rejects (taken error), fun _ => ⟨call, accepts, rfl, rfl⟩⟩
    -- what the bridge is asked may end in a panic, but in no error
    cases (h.perform call.direct).1 <;> exact nofun
  · rw [invoke_rejected rejects, Host.perform_pure]
    refine ⟨fun other => ⟨?_, ?_⟩, ?_, fun none => absurd rejects (none error)⟩
    · rintro ⟨⟩
      exact rejects
    · intro too
      rw [rejects.unique too]
    · intro other too
      exact ⟨by rw [rejects.unique too], rfl⟩

/-- The second argument is not a text, so the first is not told to the engine either. A setter needs one argument
and takes two. -/
theorem second_argument_rejected :
    let h : Host (Session Recorder HostFunction) (BridgeTask HostFunction) :=
      Host.start ⟨⟨[.grammar, .connect], true, fun _ => none⟩, Bridge.create⟩
    h.perform (invoke "addIntent" [.string "Go on", .array []]) =
      (.ok (.error (.wrongType "addIntent" 1 "string" "object")), h) ∧
    (h.perform (invoke "onCancelled" [.function ⟨7⟩, .null])).2 = (h.perform (on .canceled ⟨7⟩)).2 := by
  intro h
  constructor
  · have rejects : ObjectCall.Rejects "addIntent" [.string "Go on", .array []]
        (.wrongType "addIntent" 1 "string" "object") :=
      @ObjectCall.Rejects.wrongType "addIntent" 2 (by decide) ["Go on"] (.array []) nofun [] rfl
    rcases invoke_decided h "addIntent" [.string "Go on", .array []] with ⟨answered, kept, -⟩
    exact Prod.ext ((answered _).mpr rejects) (kept _ rejects).2
  · have accepts : ObjectCall.Accepts "onCancelled" [.function ⟨7⟩, .null] (.on .canceled ⟨7⟩) :=
      .on .canceled ⟨7⟩ [.null]
    rcases (invoke_decided h "onCancelled" [.function ⟨7⟩, .null]).2.2 accepts.not_rejects with
      ⟨call, too, effect, -⟩
    rw [effect, too.unique accepts]
    rfl

end Session

end SpokenIntent
