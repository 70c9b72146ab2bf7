import SalesDesk.Proofs.Desk.Discretion
import SalesDesk.Proofs.Desk.Session

/-!
# Alerts cannot be seen by clients

A session runs twice, with two services for alerts. However these answer, the same is answered to
every request, and the same accounts, statuses, products, audit records and rows are left at the
end.
-/

namespace SalesDesk

open Quota Desk

namespace Http

variable {P : Audit.Store → Prop} {d e : Desk}

/-- A call after which an audit record may be kept. -/
def Call.mayRecord : Call → Bool
  | .cycle _ => true
  | .writeAudit _ => true
  | _ => false

theorem respects_answerOverride (conversation : String) (state : Option String) :
    (answerOverride conversation state).Respects (Hears P) := by
  rcases answerOverride_eq conversation state with hinvalid | ⟨new, hanswer⟩
  · rw [hinvalid]
    exact Act.respects_pure _
  · rw [hanswer]
    exact (likeness_hears.respects_override conversation new).bind fun _ => Act.respects_pure _

theorem respects_answerTransition (state event : String) :
    (answerTransition state event).Respects (Hears P) := by
  unfold answerTransition
  exact (likeness_hears.respects_notify _).bind fun _ => Act.respects_pure _

theorem respects_warnUnless (saved : Bool) (warning : Log.Notice) :
    (warnUnless saved warning).Respects (Hears P) := by
  cases saved with
  | true => exact Act.respects_pure ()
  | false => exact likeness_hears.respects_notify _

theorem respects_saveCycle (tenant conversation : String) :
    (saveCycle tenant conversation).Respects (Hears P) := by
  unfold saveCycle
  apply (respects_persistTenant tenant).bind
  intro saved
  apply (respects_warnUnless saved _).bind
  intro _
  apply (respects_persistConversation tenant conversation).bind
  exact fun saved => respects_warnUnless saved _

theorem respects_tellCycle (o : CycleOutcome) : (tellCycle o).Respects (Hears P) := by
  rcases tellCycle_cases o with ⟨-, htold⟩ | ⟨-, htold⟩
  · rw [htold]
    exact Act.respects_pure _
  · rw [htold]
    exact Act.respects_fail _

/-- An alert does not show in what is answered about a cycle. -/
theorem respects_runCycle (hP : Audit.Store.Grows P) (form : CycleForm)
    (event : Option Conversation.Event) : (runCycle quiet form event).Respects (Hears P) := by
  unfold runCycle
  apply (respects_look fun _ _ _ => rfl).bind
  intro process
  apply (respects_look fun _ _ _ => rfl).bind
  intro tenant
  apply (parallel_cycle hP _).bind
  intro o other hsame
  have htold : tellCycle other = tellCycle o := by
    rw [hsame]
    rfl
  refine parallel_onProcess ?_ process
  simp only [htold]
  exact (respects_saveCycle tenant form.conversation).bind fun _ => respects_tellCycle o

theorem respects_answerCycle (hP : Audit.Store.Grows P) (form : CycleForm) :
    (answerCycle quiet form).Respects (Hears P) := by
  rcases answerCycle_eq form with hinvalid | ⟨event, hanswer⟩
  · rw [hinvalid]
    exact Act.respects_pure _
  · rw [hanswer]
    exact respects_runCycle hP form event

theorem respects_answerCheck (form : SendForm) : (answerCheck form).Respects (Hears P) := by
  have hpause (tenant : String) (canSend : Bool) : (do
      let pause ← if canSend then some <$> pause tenant else pure none
      return Answer.ok (.obj [("can_send", .bool canSend), ("delay_seconds", optionalInt pause)])
      : Act Answer).Respects (Hears P) := by
    cases canSend with
    | true =>
      exact ((likeness_hears.respects_pause tenant).map some).bind fun _ => Act.respects_pure _
    | false => exact (Act.respects_pure none).bind fun _ => Act.respects_pure _
  unfold answerCheck
  apply (respects_look fun _ _ _ => rfl).bind
  intro tenant
  cases mediaOf? form.kind with
  | none => exact Act.respects_pure _
  | some media =>
    cases media with
    | none => exact (likeness_hears.respects_account tenant _).bind (hpause tenant)
    | some m => exact (likeness_hears.respects_account tenant _).bind (hpause tenant)

theorem respects_answerRecord (form : SendForm) : (answerRecord form).Respects (Hears P) := by
  have hsave (tenant : String) (admission : Admission) :
      (saveSend tenant admission).Respects (Hears P) := by
    unfold saveSend
    cases admission.allowed with
    | true => exact (respects_persistTenant tenant).bind fun _ => Act.respects_pure _
    | false => exact Act.respects_pure _
  unfold answerRecord
  apply (respects_look fun _ _ _ => rfl).bind
  intro tenant
  cases mediaOf? form.kind with
  | none => exact Act.respects_pure _
  | some media =>
    cases media with
    | none => exact (likeness_hears.respects_trySend tenant .message).bind (hsave tenant)
    | some m => exact (likeness_hears.respects_trySend tenant (.media m)).bind (hsave tenant)

theorem respects_answerReset (kind : Reset) (name : Option String) :
    (answerReset kind name).Respects (Hears P) := by
  have hsave (tenant : String) : (saveReset tenant kind).Respects (Hears P) := by
    unfold saveReset
    apply (respects_persistTenant tenant).bind
    intro _
    exact likeness_hears.respects_now.bind fun _ => Act.respects_pure _
  unfold answerReset
  apply (respects_look fun _ _ _ => rfl).bind
  intro tenant
  cases kind with
  | daily => exact (likeness_hears.respects_runReset tenant .daily).bind fun _ => hsave tenant
  | weekly => exact (likeness_hears.respects_runReset tenant .weekly).bind fun _ => hsave tenant

theorem respects_answerStatus (name : Option String) : (answerStatus name).Respects (Hears P) := by
  unfold answerStatus
  apply (respects_look fun _ _ _ => rfl).bind
  intro tenant
  apply (likeness_hears.respects_account tenant _).bind
  intro usage
  apply (likeness_hears.respects_needsResets tenant).bind
  intro needs
  exact Act.respects_pure _

theorem respects_answerProduct (id : String) : (answerProduct id).Respects (Hears P) := by
  unfold answerProduct
  apply (respects_look fun _ _ _ => rfl).bind
  intro found
  cases found with
  | none => exact Act.respects_pure _
  | some p => exact Act.respects_pure _

theorem respects_answerLoad (products : List Product) :
    (answerLoad products).Respects (Hears P) := by
  have hload : (Act.change fun d : Desk =>
      { d with catalogue := Catalogue.load products }).Respects (Hears P) :=
    respects_change (fun _ _ _ => rfl) (fun _ => rfl) fun _ h => h
  unfold answerLoad
  apply hload.bind
  intro _
  exact (respects_look fun _ _ _ => rfl).bind fun _ => Act.respects_pure _

theorem respects_answerWriteAudit (hP : Audit.Store.Grows P) (form : AuditForm) :
    (answerWriteAudit form).Respects (Hears P) := by
  unfold answerWriteAudit
  apply (likeness_hears.respects_makeRecord _ _).bind
  intro record
  apply (respects_keepRecord hP record).bind
  intro kept
  cases kept with
  | success r => exact Act.respects_pure _
  | failure error code => exact Act.respects_pure _

theorem respects_answerReport (start stop : Timestamp) :
    (answerReport start stop).Respects (Hears P) := by
  have hreport : (report start stop).Respects (Hears P) := by
    unfold report
    exact (respects_look fun _ _ _ => rfl).bind fun r => Act.respects_ofExcept _ r
  unfold answerReport
  apply hreport.bind
  intro report
  dsimp only
  split
  · exact (Act.respects_fail _).bind fun _ => Act.respects_pure _
  · exact Act.respects_pure _

theorem respects_recordsJson (records : List Audit.Record) :
    (recordsJson records).Respects (Hears P) := by
  induction records with
  | nil => exact Act.respects_pure _
  | cons r rest ih =>
    unfold recordsJson
    split
    · exact (Act.respects_fail _).bind fun _ => ih.bind fun _ => Act.respects_pure _
    · exact ih.bind fun _ => Act.respects_pure _

theorem respects_refuse (m : Misfit) : (refuse m).Respects (Hears P) := by
  cases m with
  | halfCharacter => exact Act.respects_fail _
  | noEndpoint e => cases e <;> exact Act.respects_pure _
  | issues issues =>
    change (if issues.all fun i => i.input.isStrict then pure (Answer.unprocessable issues)
      else Act.fail .noNumber).Respects (Hears P)
    split
    · exact Act.respects_pure _
    · exact Act.respects_fail _
  | unreadable => exact Act.respects_pure _

/-- No answer depends on how alerts are answered. -/
theorem respects_answer (call : Call) (hP : call.mayRecord = true → Audit.Store.Grows P) :
    (answer quiet call).Respects (Hears P) := by
  have hlook {α : Type} {f : Desk → α} (g : α → Answer)
      (h : ∀ (d : Desk) alerts records, f ((d.answering alerts).withLog records) = f d) :
      (Act.look f >>= fun a => pure (g a)).Respects (Hears P) :=
    (respects_look h).bind fun _ => Act.respects_pure _
  cases call with
  | decide form => exact Act.respects_pure _
  | validate text => exact hlook _ fun _ _ _ => rfl
  | transition state event => exact respects_answerTransition state event
  | override conversation state => exact respects_answerOverride conversation state
  | cycle form => exact respects_answerCycle (hP rfl) form
  | checkQuota form => exact respects_answerCheck form
  | recordSend form => exact respects_answerRecord form
  | resetDaily tenant => exact respects_answerReset .daily tenant
  | resetWeekly tenant => exact respects_answerReset .weekly tenant
  | quotaStatus tenant => exact respects_answerStatus tenant
  | products => exact hlook _ fun _ _ _ => rfl
  | loadProducts products => exact respects_answerLoad products
  | product id => exact respects_answerProduct id
  | writeAudit form => exact respects_answerWriteAudit (hP rfl) form
  | report start stop => exact respects_answerReport start stop
  | trail conversation =>
    apply (respects_look fun _ _ _ => rfl).bind
    intro records
    exact (respects_recordsJson records).bind fun _ => Act.respects_pure _
  | health => exact Act.respects_pure _

/-- A request after which an audit record may be kept. -/
def Request.mayRecord (r : Request) : Bool :=
  match Call.ofRequest r with
  | .error _ => false
  | .ok call => call.mayRecord

theorem respects_serve (r : Request) (hP : r.mayRecord = true → Audit.Store.Grows P) :
    (serve quiet r).Respects (Hears P) := by
  unfold Request.mayRecord at hP
  cases hcall : Call.ofRequest r with
  | error m =>
    rw [serve_of_misfit hcall]
    exact (respects_refuse m).map r.shape
  | ok call =>
    rw [hcall] at hP
    rw [serve_of_call hcall]
    exact (respects_answer call hP).map r.shape

end Http

/-! ## Sessions -/

/-- A turn after which an audit record may be kept. -/
def Turn.mayRecord : Turn → Bool
  | .request r => r.mayRecord
  | _ => false

namespace Desk

variable {P : Audit.Store → Prop} {d e : Desk} {turn : Turn}

/-- What is answered to a turn; only requests are answered. -/
def reply? (d : Desk) : Turn → Option (Except Fault Http.Answer)
  | .request r => some ((Http.serve quiet r).run d).1
  | _ => none

theorem Hears.step (h : d.Hears P e) (hP : turn.mayRecord = true → Audit.Store.Grows P) :
    e.reply? turn = d.reply? turn ∧ (d.step turn).Hears P (e.step turn) := by
  cases turn with
  | request r =>
    obtain ⟨hmatched, hlater⟩ := Http.respects_serve r hP d e h
    exact ⟨congrArg some hmatched.eq.symm, hlater⟩
  | world w =>
    obtain ⟨⟨alerts, records, rfl⟩, -, hstore⟩ := h
    exact ⟨rfl, ⟨w.network.alerts, records, rfl⟩, w.readable, hstore⟩
  | pass =>
    obtain ⟨-, hlater⟩ := respects_fire (P := P) true d e h
    exact ⟨rfl, hlater⟩
  | restart =>
    have hrestarted : d.restarted.Hears P e.restarted := by
      obtain ⟨⟨alerts, records, rfl⟩, hread, hstore⟩ := h
      exact ⟨⟨alerts, records, rfl⟩, hread, hstore⟩
    obtain ⟨-, hlater⟩ := respects_start (P := P) d.restarted e.restarted hrestarted
    exact ⟨rfl, hlater⟩

/-- The desk after a session in whose n-th turn alerts are answered as `alerts n` says. -/
def throughAlerts (d : Desk) (alerts : Nat → Answer) : List Turn → Desk
  | [] => d
  | turn :: rest =>
    ((d.answering (alerts 0)).step turn).throughAlerts (fun n => alerts (n + 1)) rest

/-- What is answered in such a session, turn by turn. -/
def repliesAlerts (d : Desk) (alerts : Nat → Answer) :
    List Turn → List (Option (Except Fault Http.Answer))
  | [] => []
  | turn :: rest => (d.answering (alerts 0)).reply? turn ::
    ((d.answering (alerts 0)).step turn).repliesAlerts (fun n => alerts (n + 1)) rest

private theorem Hears.throughAlerts (h : d.Hears (fun _ => True) e)
    (alerts otherAlerts : Nat → Answer) (turns : List Turn) :
    e.repliesAlerts otherAlerts turns = d.repliesAlerts alerts turns ∧
      (d.throughAlerts alerts turns).Hears (fun _ => True) (e.throughAlerts otherAlerts turns) := by
  induction turns generalizing d e alerts otherAlerts with
  | nil => exact ⟨rfl, h⟩
  | cons turn rest ih =>
    have hanswering : (d.answering (alerts 0)).Hears (fun _ => True)
        (e.answering (otherAlerts 0)) := by
      obtain ⟨⟨_, records, rfl⟩, hread, hstore⟩ := h
      exact ⟨⟨otherAlerts 0, records, rfl⟩, hread, hstore⟩
    have hgrows : turn.mayRecord = true → Audit.Store.Grows fun _ => True :=
      fun _ _ _ _ _ _ => trivial
    obtain ⟨hreply, hstep⟩ := hanswering.step hgrows
    obtain ⟨hreplies, hlast⟩ := ih hstep (fun n => alerts (n + 1)) fun n => otherAlerts (n + 1)
    exact ⟨congrArg₂ List.cons hreply hreplies, hlast⟩

/-- However alerts are answered in a session, its requests are answered alike and the same is left
at its end. -/
theorem alerts_invisible (d : Desk) (w : World) (turns : List Turn)
    (alerts otherAlerts : Nat → Answer) :
    let last := (d.inWorld w).throughAlerts alerts turns
    let otherLast := (d.inWorld w).throughAlerts otherAlerts turns
    (d.inWorld w).repliesAlerts otherAlerts turns = (d.inWorld w).repliesAlerts alerts turns ∧
    otherLast.ledger = last.ledger ∧ otherLast.registry = last.registry ∧
    otherLast.catalogue = last.catalogue ∧ otherLast.archive = last.archive ∧
    otherLast.outbox.posts = last.outbox.posts := by
  intro last otherLast
  obtain ⟨t, hclock⟩ := w.readable
  have hstart : (d.inWorld w).Hears (fun _ => True) (d.inWorld w) := Hears.refl hclock trivial
  obtain ⟨hreplies, ⟨answer, records, hsame⟩, -, -⟩ :=
    hstart.throughAlerts alerts otherAlerts turns
  change otherLast = (last.answering answer).withLog records at hsame
  rw [hsame]
  exact ⟨hreplies, rfl, rfl, rfl, rfl, rfl⟩

end Desk

end SalesDesk
