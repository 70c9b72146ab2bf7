import SalesDesk.Http.Answer
import SalesDesk.Proofs.Desk.Course

/-!
# The course of an answer

What is done to answer a call, in every frame that allows what the call changes: the counts, the
resets and the statuses that it is about, the rows in which these are saved, and the record or the
catalogue that it brings.
-/

namespace SalesDesk

open Quota Desk

namespace Http

variable {d : Desk}

/-! ## Requests -/

/-- The answer as it is sent. -/
def Request.shape (r : Request) (a : Answer) : Answer :=
  if r.verb = "HEAD" then a.withoutBody else a

theorem serve_of_call {errands : Errands} {r : Request} {call : Call}
    (h : Call.ofRequest r = .ok call) : serve errands r = r.shape <$> answer errands call := by
  unfold serve
  rw [h]
  rfl

theorem serve_of_misfit {errands : Errands} {r : Request} {m : Misfit}
    (h : Call.ofRequest r = .error m) : serve errands r = r.shape <$> refuse m := by
  unfold serve
  rw [h]
  rfl

theorem ofRequest_of_find {r : Request} {target : Target} {e : Endpoint}
    (htarget : Target.read r.target = target)
    (hfind : Endpoint.find r.verb target.segments = .ok e) :
    Call.ofRequest r = Call.ofEndpoint e target.query r.content := by
  rw [Call.ofRequest, htarget]
  change Except.bind ((Endpoint.find r.verb target.segments).mapError Misfit.noEndpoint) _ = _
  rw [hfind]
  rfl

/-- The endpoint for a method and a path is that of a route with this method. -/
theorem route_of_find {method : String} {segments : List String} {e : Endpoint}
    (h : Endpoint.find method segments = .ok e) :
    ∃ route ∈ Route.all, route.method = method ∧ ∃ names, route.endpoint names = e := by
  unfold Endpoint.find at h
  dsimp only at h
  split at h
  · rename_i found endpoint hfound
    cases h
    have hmethod : found = method := by simpa using List.find?_some hfound
    obtain ⟨route, hroute, hat⟩ := List.mem_filterMap.mp (List.mem_of_find?_eq_some hfound)
    obtain ⟨_, hat, hpair⟩ := Option.map_eq_some_iff.mp hat
    obtain ⟨names, -, hnames⟩ := Option.map_eq_some_iff.mp hat
    cases hpair
    exact ⟨route, hroute, hmethod, names, hnames⟩
  · cases h

/-- A request that is understood is read by the endpoint of a route with its method. -/
theorem route_of_ofRequest {r : Request} {call : Call} (h : Call.ofRequest r = .ok call) :
    ∃ route ∈ Route.all, route.method = r.verb ∧ ∃ names query,
      Call.ofEndpoint (route.endpoint names) query r.content = .ok call := by
  unfold Call.ofRequest at h
  let target := Target.read r.target
  change Except.bind ((Endpoint.find r.verb target.segments).mapError Misfit.noEndpoint) _ = _ at h
  cases hfound : Endpoint.find r.verb target.segments with
  | error e =>
    rw [hfound] at h
    cases h
  | ok e =>
    rw [hfound] at h
    obtain ⟨route, hroute, hmethod, names, rfl⟩ := route_of_find hfound
    exact ⟨route, hroute, hmethod, names, target.query, h⟩

/-- A method that has endpoints is not the one that asks for the head alone. -/
theorem verb_of_ofRequest {r : Request} {call : Call} (h : Call.ofRequest r = .ok call) :
    r.verb ≠ "HEAD" := by
  have hroutes : ∀ route ∈ Route.all, route.method ≠ "HEAD" := by decide
  obtain ⟨route, hroute, hmethod, -⟩ := route_of_ofRequest h
  exact hmethod ▸ hroutes route hroute

/-- A call is answered in full. -/
theorem run_serve_of_call {r : Request} {call : Call} (h : Call.ofRequest r = .ok call)
    (errands : Errands) (d : Desk) : (serve errands r).run d = (answer errands call).run d := by
  have hshape : r.shape = id := funext fun a => if_neg (verb_of_ofRequest h)
  rw [serve_of_call h, Act.run_map, hshape]
  rcases (answer errands call).run d with ⟨e | a, later⟩ <;> rfl

/-! ## Cycles -/

def incoming (d : Desk) (form : CycleForm) (event : Option Conversation.Event) : Incoming :=
  { tenant := tenantOf d form.tenant, conversation := form.conversation
    message := some form.message, event, sentiment := form.sentiment, product := form.product
    prompt := form.prompt, misunderstandings := form.misunderstandings }

/-- A cycle is saved in the process in which it began. -/
theorem run_runCycle_onProcess (errands : Errands) (form : CycleForm)
    (event : Option Conversation.Event) : (runCycle errands form event).run d =
      (cycle errands (incoming d form event) >>= fun o => onProcess d.number do
        saveCycle (tenantOf d form.tenant) form.conversation
        tellCycle o).run d :=
  rfl

theorem run_runCycle (form : CycleForm) (event : Option Conversation.Event) :
    (runCycle quiet form event).run d = (cycle quiet (incoming d form event) >>= fun o => do
      saveCycle (tenantOf d form.tenant) form.conversation
      tellCycle o).run d := by
  rw [run_runCycle_onProcess]
  exact run_bind_onProcess (frame_steady.leads_cycle (Frame.allows_steady _) d)

theorem unfitWords_eq_nil_iff (parts : List (String × Option Words)) :
    unfitWords parts = [] ↔ ∀ p ∈ parts, ∀ words ∈ p.2, words.text?.isSome = true := by
  simp [unfitWords, Option.isSome_iff_ne_none]

/-- What a cycle says is fit for an answer if what it sends is. -/
theorem unfitSaid_eq_nil_iff (a : Action) :
    unfitSaid a = [] ↔ ∀ words ∈ a.outbound, words.text?.isSome = true := by
  rw [unfitSaid, unfitWords_eq_nil_iff]
  cases a <;> simp [Action.details, Action.outbound, Words.text?]

/-- A cycle whose words are texts is answered, and any other one is not. -/
theorem tellCycle_cases (o : CycleOutcome) :
    (unfitSaid o.action = [] ∧ tellCycle o = pure (.ok (cycleJson o))) ∨
    (unfitSaid o.action ≠ [] ∧ tellCycle o = Act.fail (.unfit (unfitSaid o.action))) := by
  by_cases hfit : unfitSaid o.action = []
  · exact Or.inl ⟨hfit, by simp [tellCycle, hfit]⟩
  · exact Or.inr ⟨hfit, by simp [tellCycle, hfit]⟩

/-- A cycle is run, unless its event is not known. -/
theorem answerCycle_eq (form : CycleForm) :
    (∀ errands, answerCycle errands form = pure .invalidEvent) ∨
    ∃ event, ∀ errands, answerCycle errands form = runCycle errands form event := by
  unfold answerCycle
  cases given form.event with
  | none => exact Or.inr ⟨none, fun _ => rfl⟩
  | some name =>
    cases hnamed : Conversation.Event.named? name with
    | none => exact Or.inl fun _ => by simp only [hnamed]
    | some event => exact Or.inr ⟨some event, fun _ => by simp only [hnamed]⟩

/-! ## Overrides, sends and resets -/

/-- Puts a conversation in a state, and answers this state. -/
def overrideTo (conversation : String) (new : Option Conversation.State) : Act Answer := do
  let s ← Desk.override conversation new
  return .ok (stateJson s.name s.isTerminal)

/-- A state is overridden, unless the new one is not known. -/
theorem answerOverride_eq (conversation : String) (state : Option String) :
    answerOverride conversation state = pure .invalidState ∨
    ∃ new, answerOverride conversation state = overrideTo conversation new := by
  unfold answerOverride
  cases given state with
  | none => exact Or.inr ⟨none, rfl⟩
  | some name =>
    cases hnamed : Conversation.State.named? name with
    | none => exact Or.inl (by simp only [hnamed])
    | some new => exact Or.inr ⟨some new, by simp only [hnamed]; rfl⟩

/-- What is answered about a send. -/
def sendJson (admission : Admission) : Json :=
  .obj [("recorded", .bool admission.allowed),
    ("delay_seconds", optionalInt admission.delaySeconds),
    ("messages_today", .int admission.after.messagesToday),
    ("messages_this_week", .int admission.after.messagesThisWeek)]

/-- Answers a send, after its count is saved. -/
def saveSend (tenant : String) (admission : Admission) : Act Answer := do
  if admission.allowed then
    let _ ← persistTenant tenant
  return .ok (sendJson admission)

theorem run_answerRecord (form : SendForm) : (answerRecord form).run d =
    (match mediaOf? form.kind with
    | none => pure Answer.invalidKind
    | some media =>
      trySend (tenantOf d form.tenant) (media.elim .message .media) >>=
        saveSend (tenantOf d form.tenant)).run d := by
  have hlook := Act.run_look (fun d : Desk => tenantOf d form.tenant) d
  unfold answerRecord
  rw [Act.run_bind_ok hlook]
  cases mediaOf? form.kind with
  | none => rfl
  | some media => cases media <;> rfl

/-- Answers a reset, after it is saved. -/
def saveReset (tenant : String) (kind : Reset) : Act Answer := do
  let _ ← persistTenant tenant
  let time ← now
  return .ok (.obj [("reset_type", .str kind.name), ("timestamp", .str time.iso)])

theorem run_answerReset (kind : Reset) (name : Option String) : (answerReset kind name).run d =
    (runReset (tenantOf d name) kind >>= fun _ => saveReset (tenantOf d name) kind).run d := by
  have hlook := Act.run_look (fun d : Desk => tenantOf d name) d
  unfold answerReset
  rw [Act.run_bind_ok hlook]
  cases kind <;> rfl

/-! ## Answers that are no errors -/

/-- An answer with the status of an error. -/
def Answer.IsError (a : Answer) : Prop := 400 ≤ a.status

instance (a : Answer) : Decidable a.IsError := inferInstanceAs (Decidable (400 ≤ a.status))

/-- An act answers without an error wherever the clock can be read. -/
def Delivers (act : Act Answer) : Prop := act.Gives fun a => ¬ a.IsError

theorem delivers_ok (json : Json) : Delivers (pure (.ok json)) :=
  Act.gives_pure (show ¬ 400 ≤ 200 by decide)

theorem gives_warnUnless (saved : Bool) (warning : Log.Notice) :
    (warnUnless saved warning).Gives fun _ => True := by
  cases saved with
  | true => exact Act.gives_pure trivial
  | false => exact Frame.gives_notify [warning]

theorem leads_warnUnless {R : Nat → Desk → Desk → Prop} (hR : Frame R) (saved : Bool)
    (warning : Log.Notice) : (warnUnless saved warning).Leads (R 0) := by
  cases saved with
  | true => exact hR.leads_pure ()
  | false => exact hR.leads_notify [warning]

theorem leads_saveCycle {R : Nat → Desk → Desk → Prop} (hR : Frame R) {tenant conversation : String}
    (husage : ∀ (d : Desk) e t archive, d.archive.saveUsage tenant e t = .ok archive →
      R 0 d { d with archive })
    (hstatus : ∀ (d : Desk) e t archive, d.archive.saveStatus conversation e t = .ok archive →
      R 0 d { d with archive }) : (saveCycle tenant conversation).Leads (R 0) := by
  unfold saveCycle
  apply hR.leads_bind (hR.leads_persistTenant husage)
  intro saved
  apply hR.leads_bind (leads_warnUnless hR saved _)
  intro _
  apply hR.leads_bind (hR.leads_persistConversation hstatus)
  exact fun saved => leads_warnUnless hR saved _

theorem gives_saveCycle (tenant conversation : String) :
    (saveCycle tenant conversation).Gives fun _ => True := by
  unfold saveCycle
  apply (Frame.gives_persistTenant tenant).bind
  · exact frame_steady.leads_persistTenant fun _ _ _ _ _ => ⟨rfl, rfl⟩
  intro saved _
  apply (gives_warnUnless saved _).bind (leads_warnUnless frame_steady saved _)
  intro _ _
  apply (Frame.gives_persistConversation tenant conversation).bind
  · exact frame_steady.leads_persistConversation fun _ _ _ _ _ => ⟨rfl, rfl⟩
  exact fun saved _ => gives_warnUnless saved _

theorem delivers_saveSend (tenant : String) (admission : Admission) :
    Delivers (saveSend tenant admission) := by
  unfold saveSend
  cases admission.allowed with
  | false => exact delivers_ok _
  | true =>
    apply (Frame.gives_persistTenant tenant).bind
    · exact frame_steady.leads_persistTenant fun _ _ _ _ _ => ⟨rfl, rfl⟩
    · exact fun _ _ => delivers_ok _

theorem delivers_saveReset (tenant : String) (kind : Reset) : Delivers (saveReset tenant kind) := by
  unfold saveReset
  apply (Frame.gives_persistTenant tenant).bind
  · exact frame_steady.leads_persistTenant fun _ _ _ _ _ => ⟨rfl, rfl⟩
  · exact fun _ _ => Frame.gives_now.bind frame_steady.leads_now fun _ _ => delivers_ok _

end Http

/-! ## Answers in a frame -/

namespace Desk.Frame

open Http

variable {R : Nat → Desk → Desk → Prop} {d : Desk} {tenant conversation : String} (hR : Frame R)

include hR

/-! ### Calls that change nothing -/

theorem leads_read {β : Type} (f : Desk → β) (reply : β → Http.Answer) :
    (do return reply (← Act.look f) : Act Http.Answer).Leads (R 0) :=
  hR.leads_bind (hR.leads_look f) fun _ => hR.leads_pure _

theorem leads_answerTransition (state event : String) :
    (answerTransition state event).Leads (R 0) := by
  unfold answerTransition
  exact hR.leads_bind (hR.leads_notify _) fun _ => hR.leads_pure _

theorem leads_answerCheck (form : SendForm) : (answerCheck form).Leads (R 0) := by
  unfold answerCheck
  apply hR.leads_bind (hR.leads_look _)
  intro tenant
  have hpause (canSend : Bool) : (do
      let pause ← if canSend then some <$> pause tenant else pure none
      return Answer.ok (.obj [("can_send", .bool canSend), ("delay_seconds", optionalInt pause)])
      : Act Http.Answer).Leads (R 0) := by
    cases canSend with
    | true => exact hR.leads_bind ((hR.leads_pause tenant).map some) fun _ => hR.leads_pure _
    | false => exact hR.leads_bind (hR.leads_pure none) fun _ => hR.leads_pure _
  cases mediaOf? form.kind with
  | none => exact hR.leads_pure _
  | some media =>
    cases media with
    | none => exact hR.leads_bind (hR.leads_account tenant _) hpause
    | some m => exact hR.leads_bind (hR.leads_account tenant _) hpause

theorem leads_answerStatus (name : Option String) : (answerStatus name).Leads (R 0) := by
  unfold answerStatus
  apply hR.leads_bind (hR.leads_look _)
  intro tenant
  apply hR.leads_bind (hR.leads_account tenant _)
  intro usage
  exact hR.leads_bind (hR.leads_needsResets tenant) fun _ => hR.leads_pure _

theorem leads_answerProduct (id : String) : (answerProduct id).Leads (R 0) := by
  unfold answerProduct
  apply hR.leads_bind (hR.leads_look _)
  intro found
  cases found with
  | none => exact hR.leads_pure _
  | some p => exact hR.leads_pure _

theorem leads_answerReport (start stop : Timestamp) : (answerReport start stop).Leads (R 0) := by
  have hreport : (report start stop).Leads (R 0) := by
    unfold report
    exact hR.leads_bind (hR.leads_look _) fun r => hR.leads_ofExcept _ r
  unfold answerReport
  apply hR.leads_bind hreport
  intro report
  dsimp only
  split
  · exact hR.leads_bind (hR.leads_fail _) fun _ => hR.leads_pure _
  · exact hR.leads_pure _

theorem leads_recordsJson (records : List Audit.Record) : (recordsJson records).Leads (R 0) := by
  induction records with
  | nil => exact hR.leads_pure _
  | cons r rest ih =>
    unfold recordsJson
    split
    · exact hR.leads_bind (hR.leads_fail _) fun _ => hR.leads_bind ih fun _ => hR.leads_pure _
    · exact hR.leads_bind ih fun _ => hR.leads_pure _

theorem leads_answerTrail (conversation : String) :
    (answer quiet (.trail conversation)).Leads (R 0) := by
  apply hR.leads_bind (hR.leads_look _)
  intro records
  exact hR.leads_bind (hR.leads_recordsJson records) fun _ => hR.leads_pure _

theorem leads_refuse (m : Misfit) : (refuse m).Leads (R 0) := by
  cases m with
  | halfCharacter => exact hR.leads_fail _
  | noEndpoint e => cases e <;> exact hR.leads_pure _
  | issues issues =>
    change (if issues.all fun i => i.input.isStrict then pure (Answer.unprocessable issues)
      else Act.fail .noNumber).Leads (R 0)
    split
    · exact hR.leads_pure _
    · exact hR.leads_fail _
  | unreadable => exact hR.leads_pure _

/-! ### Calls that change something -/

theorem leads_answerOverride (state : Option String)
    (h : ∀ (d : Desk) (new : Option Conversation.State),
      R 0 d { d with registry := d.registry.override conversation new }) :
    (answerOverride conversation state).Leads (R 0) := by
  rcases answerOverride_eq conversation state with hinvalid | ⟨new, hanswer⟩
  · rw [hinvalid]
    exact hR.leads_pure _
  · rw [hanswer]
    exact hR.leads_bind (hR.leads_override fun d => h d new) fun _ => hR.leads_pure _

theorem leads_answerLoad {products : List Product}
    (h : ∀ d : Desk, R 0 d { d with catalogue := Catalogue.load products }) :
    (answerLoad products).Leads (R 0) := by
  unfold answerLoad
  exact hR.leads_bind (leads_change h) fun _ => hR.leads_read _ _

theorem leads_answerWriteAudit {form : AuditForm} {n : Nat}
    (h : ∀ (d : Desk) (r : Audit.Record) (archive : Archive), r.toEntry = form.entry →
      d.archive.append r = .ok archive → R n d { d with archive }) :
    (answerWriteAudit form).Leads (R n) := by
  unfold answerWriteAudit
  apply hR.leads_makeRecord_bind
  intro r hentry
  apply hR.leads_bind_last (hR.leads_keepRecord fun d archive => h d r archive hentry)
  intro kept
  cases kept with
  | success r => exact hR.leads_pure _
  | failure error code => exact hR.leads_pure _

theorem leads_answerCycle {form : CycleForm} (hcycle : ∀ event, Allows R (incoming d form event))
    (husage : ∀ (d' : Desk) e t archive,
      d'.archive.saveUsage (tenantOf d form.tenant) e t = .ok archive →
        R 0 d' { d' with archive })
    (hstatus : ∀ (d' : Desk) e t archive,
      d'.archive.saveStatus form.conversation e t = .ok archive → R 0 d' { d' with archive }) :
    R 1 d ((answerCycle quiet form).run d).2 := by
  have hsave (o : CycleOutcome) : (do
      saveCycle (tenantOf d form.tenant) form.conversation
      tellCycle o).Leads (R 0) := by
    apply hR.leads_bind (leads_saveCycle hR husage hstatus)
    intro _
    rcases tellCycle_cases o with ⟨-, htold⟩ | ⟨-, htold⟩
    · exact htold ▸ hR.leads_pure _
    · exact htold ▸ hR.leads_fail _
  rcases answerCycle_eq form with hinvalid | ⟨event, hanswer⟩
  · rw [hinvalid]
    exact hR.leads_pure _ d
  · rw [hanswer, run_runCycle]
    exact hR.leads_bind_last (hR.leads_cycle (hcycle event)) hsave d

theorem leads_answerRecord {form : SendForm}
    (hcount : ∀ (d' : Desk) (x : Send) (a : Account),
      d'.ledger.account (tenantOf d form.tenant) d'.clock.toUtc = .ok a → x.can a = true →
        R 0 d' (d'.withAccount (tenantOf d form.tenant) (a.withSnapshot (x.count a.snapshot))))
    (husage : ∀ (d' : Desk) e t archive,
      d'.archive.saveUsage (tenantOf d form.tenant) e t = .ok archive →
        R 0 d' { d' with archive }) : R 0 d ((answerRecord form).run d).2 := by
  have hsave (admission : Admission) :
      (saveSend (tenantOf d form.tenant) admission).Leads (R 0) := by
    unfold saveSend
    cases admission.allowed with
    | false => exact hR.leads_pure _
    | true => exact hR.leads_bind (hR.leads_persistTenant husage) fun _ => hR.leads_pure _
  rw [run_answerRecord]
  cases mediaOf? form.kind with
  | none => exact hR.leads_pure _ d
  | some media =>
    exact hR.leads_bind (hR.leads_trySend fun d' a ha => hcount d' _ a ha) hsave d

theorem leads_answerReset {kind : Reset} {name : Option String}
    (hreset : ∀ (d' : Desk) (a b : Account),
      d'.ledger.account (tenantOf d name) d'.clock.toUtc = .ok a → b.limits = a.limits →
        b.snapshot = kind.renew a.snapshot → R 0 d' (d'.withAccount (tenantOf d name) b))
    (husage : ∀ (d' : Desk) e t archive,
      d'.archive.saveUsage (tenantOf d name) e t = .ok archive → R 0 d' { d' with archive }) :
    R 0 d ((answerReset kind name).run d).2 := by
  have hsave : (saveReset (tenantOf d name) kind).Leads (R 0) := by
    unfold saveReset
    apply hR.leads_bind (hR.leads_persistTenant husage)
    intro _
    exact hR.leads_bind hR.leads_now fun _ => hR.leads_pure _
  rw [run_answerReset]
  exact hR.leads_bind (hR.leads_runReset hreset) (fun _ => hsave) d

/-! ### Answers that are errors -/

theorem spares_answerOverride (conversation : String) (state : Option String) :
    (answerOverride conversation state).Spares (R 0) Answer.IsError := by
  rcases answerOverride_eq conversation state with hinvalid | ⟨new, hanswer⟩
  · rw [hinvalid]
    exact (hR.leads_pure _).spares
  · have hdelivers : Delivers (overrideTo conversation new) :=
      (gives_override conversation new).bind (frame_steady.leads_override fun _ => ⟨rfl, rfl⟩)
        fun _ _ => delivers_ok _
    rw [hanswer]
    exact hdelivers.spares fun _ h => h

/-- A cycle that has an outcome is answered without an error, or its words are no texts. -/
theorem after_answerCycle {form : CycleForm} {t : Timestamp} {result : Except Fault Http.Answer}
    {after : Desk} (hclock : d.clock.toUtc = .ok t)
    (hrun : (answerCycle quiet form).run d = (result, after))
    (hfailed : ∀ a, result = .ok a → a.IsError) (hfit : ∀ issues, result ≠ .error (.unfit issues)) :
    R 0 d after := by
  rcases answerCycle_eq form with hinvalid | ⟨event, hanswer⟩
  · have hled := hR.leads_pure (n := 0) Answer.invalidEvent d
    rw [hinvalid] at hrun
    rwa [hrun] at hled
  · rw [hanswer, run_runCycle] at hrun
    rcases hcycle : (cycle quiet (incoming d form event)).run d with ⟨e | o, later⟩
    · rw [Act.run_bind_error hcycle] at hrun
      cases hrun
      exact hR.spares_cycle _ d t _ _ hclock hcycle fun _ h => by cases h
    · have hsteady := frame_steady.leads_cycle (allows_steady (incoming d form event)) d
      rw [hcycle] at hsteady
      obtain ⟨_, saved, hsave, -⟩ :=
        gives_saveCycle (tenantOf d form.tenant) form.conversation later t (hsteady.clock ▸ hclock)
      rw [Act.run_bind_ok hcycle, Act.run_bind_ok hsave] at hrun
      rcases tellCycle_cases o with ⟨-, htold⟩ | ⟨-, htold⟩
      · rw [htold] at hrun
        cases hrun
        exact absurd (hfailed _ rfl) (show ¬ 400 ≤ 200 by decide)
      · rw [htold] at hrun
        cases hrun
        exact absurd rfl (hfit _)

theorem spares_answerRecord (form : SendForm) :
    (answerRecord form).Spares (R 0) Answer.IsError := by
  intro d t result after hclock hrun hfailed
  rw [run_answerRecord] at hrun
  cases hmedia : mediaOf? form.kind with
  | none =>
    rw [hmedia] at hrun
    exact (hR.leads_pure _).spares d t result after hclock hrun hfailed
  | some media =>
    rw [hmedia] at hrun
    exact (hR.spares_trySend _ _).bind (frame_steady.leads_trySend fun _ _ _ _ => ⟨rfl, rfl⟩)
      (delivers_saveSend _) d t result after hclock hrun hfailed

omit hR in
theorem delivers_answerReset (kind : Reset) (name : Option String) :
    Delivers (answerReset kind name) := by
  intro d t hclock
  rw [run_answerReset]
  exact (gives_runReset _ kind).bind (frame_steady.leads_runReset fun _ _ _ _ _ _ => ⟨rfl, rfl⟩)
    (fun _ _ => delivers_saveReset _ kind) d t hclock

/-- A record that cannot be made or kept leaves only its number. -/
theorem spares_answerWriteAudit (form : AuditForm) :
    (answerWriteAudit form).Spares (R 0) Answer.IsError := by
  unfold answerWriteAudit
  apply hR.spares_bind (hR.leads_makeRecord _ _)
  intro r d t result after hclock hrun hfailed
  cases happend : d.archive.append r with
  | ok archive =>
    rw [Act.run_bind_ok (run_keepRecord_ok hclock happend)] at hrun
    cases hrun
    exact absurd (hfailed _ rfl) (show ¬ 400 ≤ 201 by decide)
  | error e =>
    rw [Act.run_bind_ok (run_keepRecord_error hclock happend)] at hrun
    cases hrun
    exact hR.logged d t _

/-- An error, and a call without an answer, leave no trace, unless the call is for a cycle. -/
theorem spares_answer (call : Call) (hcycle : ∀ form, call ≠ .cycle form) :
    (answer quiet call).Spares (R 0) Answer.IsError := by
  cases call with
  | decide form => exact (hR.leads_pure _).spares
  | validate text => exact (hR.leads_read _ _).spares
  | transition state event => exact (hR.leads_answerTransition state event).spares
  | override conversation state => exact hR.spares_answerOverride conversation state
  | cycle form => exact absurd rfl (hcycle form)
  | checkQuota form => exact (hR.leads_answerCheck form).spares
  | recordSend form => exact hR.spares_answerRecord form
  | resetDaily name => exact (delivers_answerReset .daily name).spares fun _ h => h
  | resetWeekly name => exact (delivers_answerReset .weekly name).spares fun _ h => h
  | quotaStatus name => exact (hR.leads_answerStatus name).spares
  | products => exact (hR.leads_read _ _).spares
  | loadProducts products =>
    have hload : Delivers (answerLoad products) := fun d _ _ =>
      ⟨_, _, rfl, show ¬ 400 ≤ 200 by decide⟩
    exact hload.spares fun _ h => h
  | product id => exact (hR.leads_answerProduct id).spares
  | writeAudit form => exact hR.spares_answerWriteAudit form
  | report start stop => exact (hR.leads_answerReport start stop).spares
  | trail conversation => exact (hR.leads_answerTrail conversation).spares
  | health => exact (hR.leads_pure _).spares

/-- A request that fails leaves no trace, unless it is for a cycle that has an outcome but no answer. -/
theorem after_serve {r : Http.Request} {t : Timestamp} {result : Except Fault Http.Answer}
    {after : Desk} (hclock : d.clock.toUtc = .ok t)
    (hrun : (Http.serve quiet r).run d = (result, after))
    (hfailed : ∀ a, result = .ok a → a.IsError)
    (hfit : ∀ form issues, Call.ofRequest r = .ok (.cycle form) → result ≠ .error (.unfit issues)) :
    R 0 d after := by
  cases hcall : Call.ofRequest r with
  | error m =>
    rw [serve_of_misfit hcall] at hrun
    have hspares : (r.shape <$> refuse m).Spares (R 0) Answer.IsError :=
      ((hR.leads_refuse m).map r.shape).spares
    exact hspares d t _ _ hclock hrun hfailed
  | ok call =>
    rw [run_serve_of_call hcall] at hrun
    by_cases hcycle : ∀ form, call ≠ .cycle form
    · exact hR.spares_answer call hcycle d t _ _ hclock hrun hfailed
    · obtain ⟨form, rfl⟩ := not_forall_not.mp hcycle
      exact hR.after_answerCycle hclock hrun hfailed fun issues => hfit form issues hcall

end Desk.Frame

end SalesDesk
