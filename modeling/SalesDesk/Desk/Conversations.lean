import SalesDesk.Desk.Basic

/-!
# Acts on conversations

Every act on a conversation enters it in the registry, if it is new.
-/

namespace SalesDesk.Desk

open Conversation

def status (id : String) : Act Status := fun d =>
  (.ok (d.registry.status id), { d with registry := d.registry.touch id })

/-- Applies an event, and gives the states before and after it. -/
def applyEvent (id : String) (e : Event) : Act (State × State) := do
  let before := (← status id).state
  Act.change fun d => { d with registry := d.registry.applyEvent id e }
  let after := before.next e
  if before = after then return (before, after)
  notify [changedNotice id before after e]
  return (before, after)

def stopAutomation (id : String) : Act Unit := do
  Act.change fun d => { d with registry := d.registry.stop id }
  notify [stoppedNotice id]

/-- A human hands a conversation back to automation. -/
def override (id : String) (state : Option State) : Act State := do
  Act.change fun d => { d with registry := d.registry.override id state }
  let new := state.getD .initial
  notify [overrideNotice id new]
  return new

def restoreStatus (id : String) (s : Status) : Act Unit :=
  Act.change fun d => { d with registry := d.registry.restore id s }

end SalesDesk.Desk
