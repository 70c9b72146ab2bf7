import SalesDesk.Conversation.State

/-!
# Registry of conversations

Each conversation has a state and a flag that stops its automation. A conversation that is asked
about for the first time is entered in its initial state.
-/

namespace SalesDesk.Conversation

structure Status where
  state : State := .initial
  stopped : Bool := false
  deriving DecidableEq, Repr, Inhabited

/-- The status of every conversation that was ever asked about. -/
abbrev Registry := Table Status

namespace Registry

def status (r : Registry) (id : String) : Status := (r.find? id).getD {}

/-- Changes the status of a conversation, which is entered if it is new. -/
def update (r : Registry) (id : String) (f : Status → Status) : Registry :=
  r.put id (f (r.status id))

def touch (r : Registry) (id : String) : Registry := r.update id fun s => s

def applyEvent (r : Registry) (id : String) (e : Event) : Registry :=
  r.update id fun s => { s with state := s.state.next e }

/-- Stops the automation of a conversation until a human takes it back. -/
def stop (r : Registry) (id : String) : Registry := r.update id fun s => { s with stopped := true }

/-- A human hands a conversation back to automation, in the given state or as a new one. -/
def override (r : Registry) (id : String) (state : Option State) : Registry :=
  r.update id fun _ => { state := state.getD .initial, stopped := false }

def restore (r : Registry) (id : String) (s : Status) : Registry := r.update id fun _ => s

theorem status_update_self (r : Registry) (id : String) (f : Status → Status) :
    (r.update id f).status id = f (r.status id) := by
  simp [update, status, Table.find?_put_self]

theorem status_update_of_ne (r : Registry) {id other : String} (f : Status → Status)
    (h : id ≠ other) : (r.update id f).status other = r.status other := by
  simp [update, status, Table.find?_put_of_ne r _ h]

theorem touch_touch (r : Registry) (id : String) : (r.touch id).touch id = r.touch id := by
  simp [touch, update, status, Table.find?_put_self, Table.put_put]

end Registry

/-- The notice that an event changed the state of a conversation. -/
def changedNotice (id : String) (before after : State) (e : Event) : Log.Notice :=
  { level := .info, part := "conversation_service",
    message := "Conversation " ++ id ++ ": " ++ before.name ++ " -> " ++ after.name,
    context := [("event", .str e.name)] }

def stoppedNotice (id : String) : Log.Notice :=
  { level := .info, part := "conversation_service",
    message := "Automation stopped for conversation " ++ id }

def overrideNotice (id : String) (state : State) : Log.Notice :=
  { level := .info, part := "conversation_service",
    message := "Human override for conversation " ++ id ++ ", state=" ++ state.name }

end SalesDesk.Conversation
