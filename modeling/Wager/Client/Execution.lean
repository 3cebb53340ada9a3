import Wager.Client.SignIn

/-!
# Executing actions

Actions on duels, from the request to the notice that tells how it went.

An action that moves money takes three steps: the server builds a transaction, the wallet signs and
sends it, and the server is told its signature. Nothing is tried twice, and the first failure ends
it. Either way the person gets one notice. Resolving a duel takes the server alone.

## Main definitions

* `Client.execute`: Executes an action.
* `Client.resolve`: Resolves a duel.
-/

namespace Wager.Client

/-- Tells the person of a success. -/
def confirm (text : String) : Operation Unit := do
  let _ ← inNotices fun now ns => ns.success now text

/-- Tells the person how something went, and passes it on. -/
def announce {α : Type} (text : String) (outcome : Result α) : Operation (Result α) := do
  match outcome with
  | .ok _ => confirm text
  | .error e => report e
  return outcome

/-- The three steps of an action. -/
def perform (setting : Setting) (a : Duel.Action) : Operation (Result Json.Value) :=
  ExceptT.run do
    let payload ← ExceptT.mk <| ask (.requestTransaction a)
    let hash ← ExceptT.mk <| submit setting payload
    ExceptT.mk <| ask (.finalize a hash)

/-- Executes an action and tells the person how it went. Gives the server's last word. -/
def execute (setting : Setting) (a : Duel.Action) : Operation (Result Json.Value) := do
  announce "Transaction confirmed" (← perform setting a)

/-- Resolves a duel and tells the person how it went. -/
def resolve (r : Duel.Resolution) : Operation (Result Json.Value) := do
  announce "Duel resolved" (← ask (.resolve r))

end Wager.Client
