/-
When a call at the live source is followed by an outcome.

The retry policy, the call's `except` and the fetch of a client each know some exceptions.  One
that the first two do not know leaves the call after it was admitted: nothing is returned and
nothing is recorded, and a circuit that was half open for this probe stays half open.

A second way to stay half open is a failure that does not reach the threshold.  The breaker
itself never gets there, since it only opens a circuit at the threshold and keeps the count,
but a state that was stored under another threshold can be.
-/
import GaiaOS.Proofs.CallOutcome
import GaiaOS.Tools.SeismicUsgs

namespace GaiaOS

namespace DegradedMode

open CircuitBreaker (isOpen recordFailure recordSuccess)

variable {T : Type}

section Conditions

variable (settings : ResilienceSettings) (call : Call T) (world : World)

end Conditions

section Circuit

variable {settings : ResilienceSettings} {codec : JsonCodec T} {call : Call T} {world : World}

end Circuit

end DegradedMode

end GaiaOS
