import SalesDesk.Generation.Completion
import SalesDesk.Generation.Guard

/-!
# Replies

A reply is generated between the two checks of the guard. Whatever fails (the check before, the
generator, the check after) ends in the fallback text, and nothing is tried twice. Asking the
generator and judging its answer are two steps, because other work goes on in between.
-/

namespace SalesDesk.Generation

/-- What a generator of fixed behaviour does with every call. -/
inductive Behaviour where
  | reply (content model : Json)
  | slow
  | broken (message : String)
  deriving Repr

def Behaviour.result : Behaviour → Except CompletionError Completion
  | reply content model => .ok { content, model }
  | slow => .error .timeout
  | broken message => .error (.transport message)

/-- A generator of texts: one of fixed behaviour, with the errands that are run on the desk before
it answers, or a completion service. -/
inductive Generator where
  | rehearsed (behaviour : Behaviour) (errands : List Json := [])
  | service (s : Service)
  deriving Repr

namespace Generator

/-- Is this a completion service, reached over the network? -/
def isService : Generator → Bool
  | service _ => true
  | _ => false

end Generator

def systemPrompt : String :=
  "Tu es conseiller commercial. Réponds en français, en moins de 500 caractères, " ++
    "uniquement à propos du produit décrit ci-dessous."

/-- What is said of a product at the beginning of a chat. -/
def productText (p : Product) : String :=
  "\n\nProduit: " ++ p.name ++ "\n" ++ p.shortDescription ++ "\nPrix: " ++
    String.ofList (Decimal.text p.price)

structure Message where
  role : String
  content : Option String
  deriving DecidableEq, Repr

namespace Message

def toJson (m : Message) : Json :=
  .obj [("role", .str m.role), ("content", .ofOption .str m.content)]

end Message

/-- The chat about a product: the instruction with the product, and the prompt. -/
def chat (c : Catalogue) (product : Option String) (prompt : Option String) : List Message :=
  [{ role := "system"
     content := some (systemPrompt ++ ((c.product? product).elim "" productText)) },
   { role := "user", content := prompt }]

structure Call where
  messages : List Message
  timeout : Binary64
  deriving Repr

structure Outcome where
  text : Words
  accepted : Bool
  prompt : Option String := none
  rawResponse : Option Words := none
  errorCode : Option String := none
  deriving DecidableEq, Repr

structure Draft where
  product : Option String
  action : String
  prompt : Option String
  timeout : Binary64
  deriving Repr

/-- What is said of a completion that is no text: some values have no length, the others hold no
characters to look for words in. -/
def notTextMessage (content : Json) : String :=
  let kind := "'" ++ content.kindName ++ "'"
  match content with
  | .arr _ => "expected string or bytes-like object, got " ++ kind
  | .obj _ => "expected string or bytes-like object, got " ++ kind
  | _ => "object of type " ++ kind ++ " has no len()"

namespace Draft

/-- The outcome that falls back on the fixed text. -/
def fallback (d : Draft) (g : Guard) (code : String) (raw : Option Words := none) : Outcome :=
  { text := g.fallback, accepted := false, prompt := d.prompt, rawResponse := raw,
    errorCode := some code }

/-- The first step: the call to be made, or the outcome if none may be made. -/
def start (d : Draft) (g : Guard) (c : Catalogue) (generator : Option Generator) :
    Except (Outcome × List Log.Notice) (Generator × Call) :=
  match g.before c d.product d.action with
  | .error r => .error (d.fallback g r.code, r.notice?.toList)
  | .ok () =>
    match generator with
    | none => .error (d.fallback g "no_generator",
        [{ level := .warning, part := "generation_service",
           message := "No generator configured, using fallback" }])
    | some generator =>
      .ok (generator, { messages := chat c d.product d.prompt, timeout := d.timeout })

def timeoutNotice (d : Draft) : Log.Notice :=
  { level := .warning, part := "generation_service", message := "Generator timeout",
    context := [("timeout_seconds", .float d.timeout), ("product_id", .text? d.product)] }

def failureNotice (e : CompletionError) : Log.Notice :=
  { level := .error, part := "generation_service", message := "Generator failed: " ++ e.message }

def timingNotice (completion : Completion) (elapsed : Binary64) : Log.Notice :=
  Log.timing "generation_service" "generation_ms" elapsed
    [("model_name", .ofJson completion.model)]

def rejectedNotice (r : Rejection) : Log.Notice :=
  { level := .info, part := "generation_service",
    message := "Generated text rejected: " ++ r.message }

/-- The second step: the outcome for what the generator gave, after the time it took. -/
def finish (d : Draft) (g : Guard) (elapsed : Binary64) :
    Except CompletionError Completion → Except NotText Outcome × List Log.Notice
  | .error .timeout => (.ok (d.fallback g "generator_timeout"), [d.timeoutNotice])
  | .error e => (.ok (d.fallback g "generator_error"), [failureNotice e])
  | .ok completion =>
    let timing := timingNotice completion elapsed
    match Words.ofJson? completion.content with
    | none => (.error { content := completion.content }, [timing])
    | some words =>
      match g.judge words with
      | .error e => (.error e, [timing])
      | .ok (some r) => (.ok (d.fallback g r.code (some words)), [timing, rejectedNotice r])
      | .ok none =>
        (.ok { text := words, accepted := true, prompt := d.prompt, rawResponse := some words },
          [timing])

end Draft

end SalesDesk.Generation
