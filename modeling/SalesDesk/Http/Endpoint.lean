/-!
# Endpoints

Every endpoint has a method and a path of words and parameters. A path is looked up in the order of
the endpoints, so a word stands before a parameter at the same place. A parameter is one segment
that is not empty, and the last word of a path may be followed by a line feed.
-/

namespace SalesDesk.Http

inductive Endpoint where
  | decide
  | validate
  | transition
  | override (conversation : String)
  | cycle
  | checkQuota
  | recordSend
  | resetDaily
  | resetWeekly
  | quotaStatus
  | products
  | loadProducts
  | product (id : String)
  | writeAudit
  | report
  | trail (conversation : String)
  | health
  deriving DecidableEq, Repr

inductive Part where
  | word (w : String)
  | parameter
  deriving DecidableEq, Repr

/-- The parameters of a path, if it has the given form. -/
def Part.capture? : List Part → List String → Option (List String)
  | [], [] => some []
  | [.word w], [s] => if s = w ∨ s = w ++ "\n" then some [] else none
  | .word w :: parts, s :: rest => if s = w then capture? parts rest else none
  | .parameter :: parts, s :: rest =>
    if s = "" then none else (capture? parts rest).map fun ps => s :: ps
  | _, _ => none

structure Route where
  method : String
  parts : List Part
  endpoint : List String → Endpoint

namespace Route

private def under (words : List String) (more : List Part) : List Part :=
  (("api" :: "v1" :: words).map Part.word) ++ more

/-- All routes, in the order in which they are tried. -/
def all : List Route :=
  [⟨"POST", under ["decision"] [], fun _ => .decide⟩,
   ⟨"POST", under ["validate"] [], fun _ => .validate⟩,
   ⟨"POST", under ["conversation", "transition"] [], fun _ => .transition⟩,
   ⟨"POST", under ["conversation"] [.parameter, .word "override"], fun ps => .override (ps.headD "")⟩,
   ⟨"POST", under ["cycle"] [], fun _ => .cycle⟩,
   ⟨"POST", under ["quota", "check"] [], fun _ => .checkQuota⟩,
   ⟨"POST", under ["quota", "record"] [], fun _ => .recordSend⟩,
   ⟨"POST", under ["quota", "reset", "daily"] [], fun _ => .resetDaily⟩,
   ⟨"POST", under ["quota", "reset", "weekly"] [], fun _ => .resetWeekly⟩,
   ⟨"GET", under ["quota", "status"] [], fun _ => .quotaStatus⟩,
   ⟨"GET", under ["products"] [], fun _ => .products⟩,
   ⟨"PUT", under ["products"] [], fun _ => .loadProducts⟩,
   ⟨"GET", under ["products"] [.parameter], fun ps => .product (ps.headD "")⟩,
   ⟨"POST", under ["audit"] [], fun _ => .writeAudit⟩,
   ⟨"GET", under ["audit", "report"] [], fun _ => .report⟩,
   ⟨"GET", under ["audit"] [.parameter], fun ps => .trail (ps.headD "")⟩,
   ⟨"GET", [.word "health"], fun _ => .health⟩]

def at? (r : Route) (segments : List String) : Option Endpoint :=
  (Part.capture? r.parts segments).map r.endpoint

end Route

inductive NoEndpoint where
  | unknownPath
  | otherMethod
  deriving DecidableEq, Repr

/-- The endpoint for a method and a path: the first route that fits both. -/
def Endpoint.find (method : String) (segments : List String) : Except NoEndpoint Endpoint :=
  let fitting := Route.all.filterMap fun r => (r.at? segments).map fun e => (r.method, e)
  match fitting.find? fun m => m.1 = method with
  | some (_, e) => .ok e
  | none => .error (if fitting.isEmpty then .unknownPath else .otherMethod)

end SalesDesk.Http
