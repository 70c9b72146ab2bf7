import SalesDesk.Proofs.Desk.Frame
import SalesDesk.Proofs.Desk.Speaking

/-!
# The course of a cycle

With nothing else going on, a cycle counts at most one message of its tenant, changes the status of
its conversation, and keeps at most one record, which is about its conversation. All that can fail
comes before the count, so a cycle that ends in a fault has changed nothing. This is said in every
frame that allows these changes.
-/

namespace SalesDesk

open Quota

namespace Desk

variable {d : Desk} {t : Timestamp} {r : Incoming} {state : Conversation.State}
  {before : Snapshot} {trigger : Option Alert.Trigger}
  {generated : Option (Generation.Outcome × Option Generation.Call)}

/-- Nothing is done while a generator is at work. -/
def quiet : Errands := fun _ d => (none, d)

/-- What is written for a first choice. -/
def writeFor (r : Incoming) (first : Action) :
    Act (Option (Generation.Outcome × Option Generation.Call)) :=
  match first with
  | .respondText _ => some <$> write quiet r first
  | _ => pure none

private theorem proceed_eq (process : Nat) (first : Action) :
    proceed quiet r process state before trigger first =
      writeFor r first >>= fun generated =>
        onProcess process (conclude r state before trigger first generated) := by
  cases first <;> rfl

/-- The part of a cycle that follows the look at the hours. -/
def pursue (d : Desk) (r : Incoming) (inside : Bool) : Act CycleOutcome :=
  let first := choose (d.registry.status r.conversation) (d.situation r inside)
  writeFor r first >>= conclude r (d.registry.status r.conversation).state
    (d.ledger.counters r.tenant) (d.trigger r) first

theorem gives_wrapUp (settled : Action × Option Int) :
    (wrapUp r state before trigger generated settled).Gives fun _ => True := by
  intro d t hclock
  have hyields : (wrapUp r state before trigger generated (settled.1, settled.2)).Yields d _ :=
    yields_wrapUp rfl hclock
  obtain ⟨o, later, hrun, -⟩ := hyields
  exact ⟨o, later, hrun, trivial⟩

namespace Frame

variable {R : Nat → Desk → Desk → Prop} {act : Act CycleOutcome}

/-- A frame allows what a cycle changes: the counters of its tenant, the status of its conversation,
and one more record about it, which misses nothing if there was a message. -/
structure Allows (R : Nat → Desk → Desk → Prop) (r : Incoming) : Prop where
  counted : ∀ (d : Desk) (a : Account), d.ledger.account r.tenant d.clock.toUtc = .ok a →
    a.canSendMessage = true → R 0 d (d.withAccount r.tenant (a.withSnapshot a.snapshot.withMessage))
  moved : ∀ (d : Desk) (e : Conversation.Event),
    R 0 d { d with registry := d.registry.applyEvent r.conversation e }
  stopped : ∀ d : Desk, R 0 d { d with registry := d.registry.stop r.conversation }
  recorded : ∀ (d : Desk) (record : Audit.Record) (archive : Archive),
    record.conversation = some r.conversation →
      (r.message.isSome = true → record.missing? = none) →
      d.archive.append record = .ok archive → R 1 d { d with archive }

theorem allows_steady (r : Incoming) : Allows (fun _ => Steady) r :=
  ⟨fun _ _ _ _ => ⟨rfl, rfl⟩, fun _ _ => ⟨rfl, rfl⟩, fun _ => ⟨rfl, rfl⟩,
    fun _ _ _ _ _ _ => ⟨rfl, rfl⟩⟩

variable (hR : Frame R)

include hR

/-! ## Writing a reply -/

theorem leads_ask (generator : Generation.Generator) (call : Generation.Call) :
    (ask quiet generator call).Leads (R 0) := by
  cases generator with
  | service s =>
    unfold ask consult
    apply hR.leads_bind (hR.leads_notify _)
    intro _
    exact hR.leads_bind (hR.leads_send _) fun _ => hR.leads_look _
  | rehearsed behaviour list => exact fun d => hR.refl d

theorem leads_judge (guard : Generation.Guard) (draft : Generation.Draft)
    (generator : Generation.Generator) (call : Generation.Call)
    (completion : Except Generation.CompletionError Generation.Completion) :
    (judge guard draft generator call completion).Leads (R 0) := by
  unfold judge
  apply hR.leads_bind (hR.leads_notify _)
  intro _
  exact hR.leads_bind (hR.leads_ofExcept _ _) fun _ => hR.leads_pure _

theorem leads_write (r : Incoming) (action : Action) : (write quiet r action).Leads (R 0) := by
  unfold write
  apply hR.leads_bind (hR.leads_look _)
  intro guard
  apply hR.leads_bind (hR.leads_look _)
  intro timeout
  rw [generate_eq]
  apply hR.leads_bind (hR.leads_look _)
  intro started
  cases started with
  | error fallback => exact hR.leads_bind (hR.leads_notify _) fun _ => hR.leads_pure _
  | ok asked => exact hR.leads_bind (hR.leads_ask _ _) fun _ => hR.leads_judge _ _ _ _ _

theorem leads_writeFor (r : Incoming) (first : Action) : (writeFor r first).Leads (R 0) := by
  cases first with
  | respondText text => exact (hR.leads_write r _).map some
  | _ => exact hR.leads_pure none

/-! ## Ending a cycle -/

theorem leads_alert (r : Incoming) (trigger : Option Alert.Trigger) (action : Action) :
    (alert r trigger action).Leads (R 0) := by
  unfold alert
  dsimp only
  split
  · exact hR.leads_pure _
  · apply hR.leads_bind (hR.leads_look _)
    intro delivery
    apply hR.leads_bind (hR.leads_send _)
    intro _
    exact hR.leads_bind (hR.leads_notify _) fun _ => hR.leads_pure _

theorem leads_recordCycle (h : Allows R r) (action : Action)
    (generated : Option Generation.Outcome) :
    (recordCycle r state before action generated).Leads (R 1) := by
  unfold recordCycle
  apply hR.leads_bind (hR.leads_account r.tenant _)
  intro after
  apply hR.leads_bind hR.leads_now
  intro time
  apply hR.leads_makeRecord_bind
  intro record hentry
  have hconversation : record.conversation = some r.conversation := by rw [hentry]
  have hmissing (hmessage : r.message.isSome = true) : record.missing? = none := by
    simp [Audit.Record.missing?, firstMissing?, hentry, hmessage]
  apply hR.leads_bind_last (hR.leads_keepRecord fun d archive => h.recorded d record archive
    hconversation hmissing)
  intro kept
  cases kept with
  | success record => exact hR.leads_pure _
  | failure error code => exact hR.leads_bind (hR.leads_notify _) fun _ => hR.leads_pure _

theorem leads_close (h : Allows R r) (state : Conversation.State)
    (event : Option Conversation.Event) : (close r.conversation state event).Leads (R 0) := by
  cases event with
  | none => exact hR.leads_pure state
  | some e =>
    exact hR.leads_bind (hR.leads_applyEvent fun d => h.moved d e) fun _ => hR.leads_pure _

theorem leads_finish (h : Allows R r) (action : Action) (delay : Option Int) (sent : Bool) :
    (finish r state before trigger generated action delay sent).Leads (R 1) := by
  unfold finish
  apply hR.leads_bind_last (hR.leads_recordCycle h _ _)
  intro audit
  apply hR.leads_bind (hR.leads_close h _ _)
  intro stateAfter
  exact hR.leads_bind (hR.leads_notify _) fun _ => hR.leads_pure _

theorem leads_wrapUp (h : Allows R r) (settled : Action × Option Int) :
    (wrapUp r state before trigger generated settled).Leads (R 1) := by
  unfold wrapUp
  apply hR.leads_bind (hR.leads_alert r trigger settled.1)
  intro sent
  by_cases hstop : settled.1 = .stopAutomation
  · rw [if_pos hstop]
    exact hR.leads_bind (hR.leads_stopAutomation h.stopped) fun _ => hR.leads_finish h _ _ _
  · rw [if_neg hstop]
    exact hR.leads_finish h _ _ _

theorem leads_settle (h : Allows R r) (g : Generation.Outcome) : (settle r g).Leads (R 0) := by
  unfold settle
  apply hR.leads_bind (hR.leads_trySend (x := .message) h.counted)
  intro admission
  by_cases hallowed : admission.allowed = true
  · rw [if_pos hallowed]
    exact hR.leads_pure _
  · rw [if_neg hallowed]
    exact hR.leads_bind (hR.leads_notify _) fun _ => hR.leads_pure _

/-- A reply without a known pause is not counted. -/
theorem spares_settle (r : Incoming) (g : Generation.Outcome) :
    (settle r g).Spares (R 0) fun _ => False := by
  have hsteady : (trySend r.tenant .message).Leads Steady :=
    frame_steady.leads_trySend fun _ _ _ _ => ⟨rfl, rfl⟩
  unfold settle
  apply (hR.spares_trySend r.tenant .message).bind hsteady
  intro admission
  by_cases hallowed : admission.allowed = true
  · rw [if_pos hallowed]
    exact Act.gives_pure not_false
  · rw [if_neg hallowed]
    exact (gives_notify _).bind (frame_steady.leads_notify _) fun _ _ => Act.gives_pure not_false

theorem leads_conclude (h : Allows R r) (first : Action) :
    (conclude r state before trigger first generated).Leads (R 1) := by
  cases generated with
  | none => exact hR.leads_wrapUp h (first, none)
  | some generated =>
    rw [conclude_some]
    exact hR.leads_bind (hR.leads_settle h _) fun settled => hR.leads_wrapUp h settled

theorem spares_conclude (first : Action) :
    (conclude r state before trigger first generated).Spares (R 0) fun _ => False := by
  -- Once a reply is settled nothing can fail any more, so a fault comes before the count.
  cases generated with
  | none => exact (gives_wrapUp (first, none)).spares fun _ _ => not_false
  | some generated =>
    rw [conclude_some]
    apply (hR.spares_settle r _).bind (frame_steady.leads_settle (allows_steady r) _)
    intro settled d t hclock
    obtain ⟨o, later, hrun, -⟩ := gives_wrapUp settled d t hclock
    exact ⟨o, later, hrun, not_false⟩

/-! ## The whole cycle -/

theorem opened (d : Desk) (r : Incoming) : R 0 d (d.opened r) :=
  hR.trans (hR.leads_status r.conversation d) (hR.leads_account r.tenant _ _)

theorem leads_pursue (h : Allows R r) (inside : Bool) : (d.pursue r inside).Leads (R 1) :=
  hR.leads_bind (hR.leads_writeFor r _) fun _ => hR.leads_conclude h _

theorem spares_pursue (r : Incoming) (inside : Bool) :
    (d.pursue r inside).Spares (R 0) fun _ => False :=
  hR.spares_bind (hR.leads_writeFor r _) fun _ => hR.spares_conclude _

end Frame

/-- An act that goes on in the process in which it began goes on, as long as no new one has begun. -/
theorem run_bind_onProcess {α β : Type} {act : Act α} {next : α → Act β}
    (h : d.Steady (act.run d).2) :
    (act >>= fun a => onProcess d.number (next a)).run d = (act >>= next).run d := by
  rcases hrun : act.run d with ⟨e | a, later⟩
  · rw [Act.run_bind_error hrun, Act.run_bind_error hrun]
  · rw [hrun] at h
    rw [Act.run_bind_ok hrun, Act.run_bind_ok hrun, ← h.number]
    exact run_onProcess_newest _ _

/-- With nothing else going on, a cycle ends in the process in which it began. -/
theorem run_cycle_quiet (hclock : d.clock.toUtc = .ok t) (r : Incoming) : (cycle quiet r).run d =
    (Act.ofExcept .hours (d.settings.isOpen t) >>= d.pursue r).run (d.opened r) := by
  rw [run_cycle hclock]
  cases d.settings.isOpen t with
  | error e => rfl
  | ok inside =>
    rw [Act.run_bind_ok (Act.run_ofExcept_ok ..), Act.run_bind_ok (Act.run_ofExcept_ok ..),
      proceed_eq, ← (frame_steady.opened d r).number]
    exact run_bind_onProcess (frame_steady.leads_writeFor r _ _)

namespace Frame

variable {R : Nat → Desk → Desk → Prop} (hR : Frame R)

include hR

theorem leads_cycle (h : Allows R r) : (cycle quiet r).Leads (R 1) := by
  intro d
  have hopened := hR.opened d r
  cases hclock : d.clock.toUtc with
  | ok t =>
    have hpursued : (Act.ofExcept .hours (d.settings.isOpen t) >>= d.pursue r).Leads (R 1) :=
      hR.leads_bind (hR.leads_ofExcept _ _) fun _ => hR.leads_pursue h _
    rw [run_cycle_quiet hclock]
    exact hR.after_none hopened (hpursued _)
  | error e =>
    rw [run_cycle_of_unread hclock]
    exact hR.mono (Nat.zero_le 1) hopened

theorem spares_cycle (r : Incoming) : (cycle quiet r).Spares (R 0) fun _ => False := by
  intro d t result after hclock hrun hfailed
  have hpursued : (Act.ofExcept .hours (d.settings.isOpen t) >>= d.pursue r).Spares (R 0)
      fun _ => False :=
    hR.spares_bind (hR.leads_ofExcept _ _) fun _ => hR.spares_pursue r _
  have hopened := hR.opened d r
  have hlater : (d.opened r).clock.toUtc = .ok t := (hR.steady hopened).clock ▸ hclock
  rw [run_cycle_quiet hclock] at hrun
  exact hR.trans hopened (hpursued _ t result after hlater hrun hfailed)

end Frame

end Desk

end SalesDesk
