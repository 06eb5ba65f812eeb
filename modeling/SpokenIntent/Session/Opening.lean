import SpokenIntent.Host.Loop
import SpokenIntent.Session.Bridge

/-!
Programs that live with one session: it is set up on a host of its own, and is a part of the world there.
-/

namespace SpokenIntent

/-- Why a program has no session. -/
inductive OpeningError where
  | engine (e : EngineError)
  | panicked (p : Panic)
  deriving DecidableEq

def OpeningError.message : OpeningError → String
  | .engine e => e.message
  | .panicked p => p.message

namespace Session

variable {ε κ σ : Type} [Engine ε]

/-- A host with a new session, of which `world` makes what else the program works with. -/
def openOn (factory : EngineFactory ε) (credentials : Credentials) (world : Session ε κ → σ) :
    Except OpeningError (Host σ (BridgeTask κ)) :=
  match (Host.start ()).perform (establish factory credentials) with
  | (.ok (.ok session), h) => .ok { h with world := world session }
  | (.ok (.error e), _) => .error (.engine e)
  | (.error p, _) => .error (.panicked p)

end Session

end SpokenIntent
