import SalesDesk.Proofs.Desk.Choice
import SalesDesk.Proofs.Desk.Conclusion
import SalesDesk.Proofs.Desk.Writing

/-!
# When a cycle may speak

A cycle answers in words only where automation runs, the conversation is not left to humans, the
hours are open, the tenant is below its limits and the message is calm, and where the tenant is
still below its limits when the reply is there: while a generator is at work, others may use up what
is left. Whatever else a generator sets off, the cycle itself counts what it says and nothing else.
-/

namespace SalesDesk

open Quota

namespace Desk

variable {d : Desk} {r : Incoming} {t : Timestamp} {errands : Errands} {inside : Bool}

/-- The desk once the conversation and the tenant of a message are entered. -/
def opened (d : Desk) (r : Incoming) : Desk :=
  ((snapshot r.tenant).run ((status r.conversation).run d).2).2

theorem opened_of_account {a : Account} (ha : d.ledger.account r.tenant d.clock.toUtc = .ok a) :
    d.opened r =
      ({ d with registry := d.registry.touch r.conversation } : Desk).withAccount r.tenant a := by
  let entered : Desk := { d with registry := d.registry.touch r.conversation }
  have hentered : entered.ledger.account r.tenant entered.clock.toUtc = .ok a := ha
  exact congrArg Prod.snd (run_account hentered Account.snapshot)

theorem opened_of_account_error {e : TimeError}
    (he : d.ledger.account r.tenant d.clock.toUtc = .error e) :
    d.opened r = { d with registry := d.registry.touch r.conversation } := by
  let entered : Desk := { d with registry := d.registry.touch r.conversation }
  have hentered : entered.ledger.account r.tenant entered.clock.toUtc = .error e := he
  exact congrArg Prod.snd (run_account_error (f := Account.snapshot) hentered)

theorem exists_opened_eq (hclock : d.clock.toUtc = .ok t) (r : Incoming) :
    ∃ a, d.ledger.account r.tenant d.clock.toUtc = .ok a ∧ d.opened r =
      ({ d with registry := d.registry.touch r.conversation } : Desk).withAccount r.tenant a := by
  obtain ⟨a, ha⟩ := exists_account hclock r.tenant
  exact ⟨a, ha, opened_of_account ha⟩

/-- The part of a cycle that follows its first choice. -/
def proceed (errands : Errands) (r : Incoming) (process : Nat) (state : Conversation.State)
    (before : Snapshot) (trigger : Option Alert.Trigger) (first : Action) : Act CycleOutcome := do
  let generated ← match first with
    | .respondText _ => some <$> write errands r first
    | _ => pure none
  onProcess process (conclude r state before trigger first generated)

/-- The part of a cycle that follows its first look at the conversation and at the tenant. -/
def lookAround (d : Desk) (errands : Errands) (r : Incoming) : Act CycleOutcome := do
  let time ← now
  let inside ← Act.ofExcept .hours (← Act.look fun d => d.settings.isOpen time)
  let status ← status r.conversation
  proceed errands r d.number (d.registry.status r.conversation).state
    (d.ledger.counters r.tenant) (d.trigger r) (choose status (d.situation r inside))

/-- A cycle enters its conversation and its tenant, where the tenant has an account or gets one. -/
theorem run_cycle_known {a : Account} (ha : d.ledger.account r.tenant d.clock.toUtc = .ok a)
    (errands : Errands) : (cycle errands r).run d = (d.lookAround errands r).run
      (({ d with registry := d.registry.touch r.conversation } : Desk).withAccount r.tenant a) := by
  -- The first look at the tenant enters it; the second one changes nothing.
  let entered : Desk := { d with registry := d.registry.touch r.conversation }
  have hentered : entered.ledger.account r.tenant entered.clock.toUtc = .ok a := ha
  have hstatus : (status r.conversation).run d =
      (.ok (d.registry.status r.conversation), entered) := rfl
  have hbefore : (snapshot r.tenant).run entered =
      (.ok (d.ledger.counters r.tenant), entered.withAccount r.tenant a) := by
    rw [Ledger.counters_of_account ha]
    exact run_account hentered _
  have hcheck : (checkMessage r.tenant).run (entered.withAccount r.tenant a) =
      (.ok (d.view.canSend r.tenant), entered.withAccount r.tenant a) := by
    have hcan : d.view.canSend r.tenant = a.canSendMessage := by
      simp only [View.canSend, view, Ledger.counters_of_account ha, Ledger.limitsOf_of_account ha]
      rfl
    rw [checkMessage, run_account (account_withAccount _), withAccount_withAccount, hcan]
  unfold cycle
  rw [Act.run_bind_ok (Act.run_look number d), Act.run_bind_ok hstatus, Act.run_bind_ok hbefore,
    Act.run_bind_ok (Act.run_look _ _), Act.run_bind_ok hcheck]
  rfl

/-- At a clock that cannot be read a cycle ends where it asks for the time, or where it would begin a
new account. -/
theorem run_cycle_of_unread {e : TimeError} (hclock : d.clock.toUtc = .error e) (errands : Errands)
    (r : Incoming) : (cycle errands r).run d = (.error (.time e), d.opened r) := by
  cases ha : d.ledger.account r.tenant d.clock.toUtc with
  | ok a =>
    have hnow : now.run (d.opened r) = (.error (.time e), d.opened r) := by
      refine run_now_error ?_
      rw [opened_of_account ha]
      exact hclock
    rw [run_cycle_known ha, ← opened_of_account ha]
    exact Act.run_bind_error hnow
  | error fault =>
    have hfault : fault = e :=
      Except.error.inj ((clock_of_account_error ha).symm.trans hclock)
    subst hfault
    let entered : Desk := { d with registry := d.registry.touch r.conversation }
    have hentered : entered.ledger.account r.tenant entered.clock.toUtc = .error fault := ha
    have hstatus : (status r.conversation).run d =
        (.ok (d.registry.status r.conversation), entered) := rfl
    rw [opened_of_account_error ha]
    unfold cycle
    rw [Act.run_bind_ok (Act.run_look number d), Act.run_bind_ok hstatus]
    exact Act.run_bind_error (run_account_error hentered)

/-- At a clock that can be read a cycle then looks whether the hours are open. -/
theorem run_cycle (hclock : d.clock.toUtc = .ok t) :
    (cycle errands r).run d =
      (Act.ofExcept .hours (d.settings.isOpen t) >>= fun inside =>
        proceed errands r d.number (d.registry.status r.conversation).state
          (d.ledger.counters r.tenant) (d.trigger r)
          (choose (d.registry.status r.conversation) (d.situation r inside))).run (d.opened r) := by
  obtain ⟨a, ha, hopened⟩ := exists_opened_eq hclock r
  have hnow : now.run (d.opened r) = (.ok t, d.opened r) := by
    refine run_now ?_
    rw [hopened]
    exact hclock
  have hstatus : (status r.conversation).run (d.opened r) =
      (.ok (d.registry.status r.conversation), d.opened r) := by
    have hregistry : (d.opened r).registry = d.registry.touch r.conversation := by
      rw [hopened]
      rfl
    change (Except.ok ((d.opened r).registry.status r.conversation),
      { d.opened r with registry := (d.opened r).registry.touch r.conversation }) = _
    rw [hregistry, Conversation.Registry.touch_touch, Conversation.Registry.touch,
      Conversation.Registry.status_update_self, ← Conversation.Registry.touch, ← hregistry]
  have hsettings : (d.opened r).settings = d.settings := by
    rw [hopened]
    rfl
  rw [run_cycle_known ha, ← hopened]
  unfold lookAround
  rw [Act.run_bind_ok hnow, Act.run_bind_ok (Act.run_look _ _), hsettings]
  cases hhours : d.settings.isOpen t with
  | error e => rw [Act.run_bind_error (Act.run_ofExcept_error ..)]; rfl
  | ok inside =>
    rw [Act.run_bind_ok (Act.run_ofExcept_ok ..), Act.run_bind_ok hstatus]
    rfl

theorem run_cycle_of_hours (hclock : d.clock.toUtc = .ok t)
    (hhours : d.settings.isOpen t = .ok inside) :
    (cycle errands r).run d =
      (proceed errands r d.number (d.registry.status r.conversation).state
        (d.ledger.counters r.tenant) (d.trigger r)
        (choose (d.registry.status r.conversation) (d.situation r inside))).run (d.opened r) := by
  rw [run_cycle hclock, hhours]
  exact Act.run_bind_ok (Act.run_ofExcept_ok ..)

theorem run_proceed_respondText (process : Nat) (state : Conversation.State)
    (before : Snapshot) (trigger : Option Alert.Trigger) (text : Words) {later : Desk}
    {generated : Generation.Outcome × Option Generation.Call}
    (h : (write errands r (.respondText text)).run d = (.ok generated, later)) :
    (proceed errands r process state before trigger (.respondText text)).run d =
      (onProcess process (conclude r state before trigger (.respondText text)
        (some generated))).run later := by
  have hmap : (some <$> write errands r (.respondText text)).run d =
      (.ok (some generated), later) := by
    rw [Act.run_map, h]
    rfl
  exact Act.run_bind_ok hmap

theorem proceed_of_outbound (process : Nat) (state : Conversation.State)
    (before : Snapshot) (trigger : Option Alert.Trigger) {first : Action}
    (h : first.outbound = none) :
    proceed errands r process state before trigger first =
      onProcess process (conclude r state before trigger first none) := by
  cases first with
  | respondText text => simp [Action.outbound] at h
  | _ => rfl

/-- What the generation of a reply comes to, and the desk at its end. -/
def written (d : Desk) (errands : Errands) (r : Incoming) :
    Except Fault (Generation.Outcome × Option Generation.Call) × Desk :=
  (write errands r (.respondText "")).run (d.opened r)

/-- The desk when a reply is there, in the process in which its cycle began. -/
def answered (d : Desk) (errands : Errands) (r : Incoming) : Desk :=
  (d.written errands r).2.seenBy d.number

/-- A cycle ends in a reply, which is counted. -/
structure Spoken (d : Desk) (errands : Errands) (r : Incoming) (o : CycleOutcome) (after : Desk)
    (g : Generation.Outcome) : Prop where
  written : (d.written errands r).1 = .ok (g, o.call)
  reply : o.reply = some g
  action : o.action = .respondText g.text
  pause : ∃ pause, o.delaySeconds = some pause ∧ 2 ≤ pause ∧ pause ≤ 24
  counters : ∀ tenant (x : Gauge), x.value (after.ledger.counters tenant) =
    x.value ((d.answered errands r).ledger.counters tenant) +
      if tenant = r.tenant ∧ x.counts .message = true then 1 else 0
  stopped : ∀ id, (after.registry.status id).stopped =
    ((d.answered errands r).registry.status id).stopped

/-- A cycle puts off a reply that was written. -/
structure PutOff (d : Desk) (errands : Errands) (r : Incoming) (o : CycleOutcome) (after : Desk)
    (g : Generation.Outcome) : Prop where
  written : (d.written errands r).1 = .ok (g, o.call)
  reply : o.reply = some g
  action : o.action = .delay exhaustedDelaySeconds
  pause : o.delaySeconds = none
  counters : after.ledger.counters = (d.answered errands r).ledger.counters
  stopped : ∀ id, (after.registry.status id).stopped =
    ((d.answered errands r).registry.status id).stopped

/-- The flag of a conversation is set at the end of a cycle just when the action is to stop. -/
def StopsExactly (r : Incoming) (o : CycleOutcome) (after : Desk) : Prop :=
  (after.registry.status r.conversation).stopped = true ↔ o.action = .stopAutomation

/-- A cycle asks no generator: it is the same whatever is done while one is at work, and all that it
sends is alerts. -/
structure Silent (d : Desk) (r : Incoming) (o : CycleOutcome) (after : Desk) : Prop where
  unasked : ∀ errands, (cycle errands r).run d = (.ok o, after)
  earlier : after.earlier = d.earlier
  reply : o.reply = none
  call : o.call = none
  outbound : o.action.outbound = none
  pause : o.delaySeconds = none
  counters : after.ledger.counters = d.ledger.counters
  posts : ∃ posts, after.outbox.posts = d.outbox.posts ++ posts ∧
    ∀ p ∈ posts, ∃ text, d.settings.channel.post? text = some p
  stopped : StopsExactly r o after

theorem view_opened (hclock : d.clock.toUtc = .ok t) (r : Incoming) :
    (d.opened r).view = d.view := by
  obtain ⟨_, _, hstatus, -, hview⟩ := yields_status (d := d) rfl r.conversation
  obtain ⟨_, _, hsnapshot, -, hlast⟩ := yields_snapshot hview hclock r.tenant
  rw [opened, hstatus, hsnapshot]
  exact hlast

/-- A cycle that may not speak ends in its first choice. -/
theorem exists_silent (hclock : d.clock.toUtc = .ok t)
    (hhours : d.settings.isOpen t = .ok inside) (h : ¬ d.MaySpeak r t) :
    ∃ o after, d.Silent r o after := by
  obtain ⟨hmay, -⟩ | ⟨-, houtbound, hstop⟩ := choose_cases (r := r) hhours
  · exact absurd hmay h
  have hview := view_opened hclock r
  have hnumber : d.number = (d.opened r).number :=
    congrArg (fun v => v.earlier.length) hview.symm
  obtain ⟨o, after, hrun, hout, hclosed⟩ :=
    yields_conclude_none (r := r) hview hclock (d.registry.status r.conversation).state
      (d.ledger.counters r.tenant) (d.trigger r)
      (choose (d.registry.status r.conversation) (d.situation r inside))
  refine ⟨o, after, fun errands => ?_, hclosed.earlier, hout.reply, hout.call,
    ?_, hout.delay, hclosed.counters, hclosed.posts, ?_⟩
  · rw [run_cycle_of_hours hclock hhours, proceed_of_outbound _ _ _ _ houtbound, hnumber,
      run_onProcess_newest]
    exact hrun
  · rw [hout.action]
    exact houtbound
  · have hflag := hclosed.stopped r.conversation
    change (after.registry.status r.conversation).stopped = _ at hflag
    rw [StopsExactly, hflag, hout.action]
    simp only [true_and, Bool.or_eq_true, decide_eq_true_eq]
    exact ⟨fun hor => hor.elim hstop id, Or.inr⟩

/-- What the end of a cycle needs of the desk: a readable clock, and a day's counter of at most 64
bits. -/
structure Ready (d : Desk) (tenant : String) : Prop where
  clock : ∃ t, d.clock.toUtc = .ok t
  word : -Word.bound 64 ≤ (d.ledger.counters tenant).messagesToday

/-- Two desks agree on what counts for a send and on which conversations are stopped. -/
structure Agrees (d other : Desk) : Prop where
  counters : other.ledger.counters = d.ledger.counters
  limits : other.ledger.limitsOf = d.ledger.limitsOf
  status : other.registry.status = d.registry.status

theorem exists_written (hclock : d.clock.toUtc = .ok t)
    (htext : ∀ g, d.generator = some g → g.AnswersText d.network)
    (hlater : ∃ later, (d.answered errands r).clock.toUtc = .ok later) :
    ∃ g call m, d.written errands r = (.ok (g, call), m) ∧ (errands.Idle →
      ∃ posts, m.view = { d.view with posts := d.view.posts ++ posts }) := by
  have hgenerator : (d.opened r).generator = d.generator := by
    obtain ⟨a, -, hopened⟩ := exists_opened_eq hclock r
    rw [hopened]
    rfl
  rw [← hgenerator] at htext
  rw [answered, clock_seenBy] at hlater
  obtain ⟨⟨g, call⟩, m, hwrite, hview⟩ :=
    yields_write (view_opened hclock r) hclock htext hlater
  exact ⟨g, call, m, hwrite, hview⟩

/-- Where nothing is done while a generator is at work, a reply changes nothing that counts. -/
theorem agrees_answered (hclock : d.clock.toUtc = .ok t)
    (htext : ∀ g, d.generator = some g → g.AnswersText d.network)
    (hlater : ∃ later, (d.answered errands r).clock.toUtc = .ok later) (hidle : errands.Idle) :
    d.Agrees (d.answered errands r) := by
  obtain ⟨g, call, m, hwritten, hm⟩ := exists_written hclock htext hlater
  obtain ⟨posts, hview⟩ := hm hidle
  have hnumber : d.number = m.number := congrArg (fun v => v.earlier.length) hview.symm
  have hsame : d.answered errands r = m := by
    rw [answered, hwritten, hnumber, seenBy_number]
  rw [hsame]
  exact ⟨congrArg View.counters hview, congrArg View.limits hview, congrArg View.status hview⟩

/-- A cycle that may speak has a reply written, and counts it if the tenant is still below its
limits by then. -/
theorem exists_spoken_or_putOff (hclock : d.clock.toUtc = .ok t)
    (hhours : d.settings.isOpen t = .ok inside)
    (htext : ∀ g, d.generator = some g → g.AnswersText d.network) (h : d.MaySpeak r t)
    (hready : (d.answered errands r).Ready r.tenant) :
    ∃ o after g, (cycle errands r).run d = (.ok o, after) ∧
      ((d.answered errands r).Below r.tenant ∧
          d.Spoken errands r o (after.seenBy d.number) g ∨
        ¬ (d.answered errands r).Below r.tenant ∧
          d.PutOff errands r o (after.seenBy d.number) g) := by
  obtain ⟨-, hfirst⟩ | ⟨hnot, -⟩ := choose_cases (r := r) hhours
  swap
  · exact absurd h hnot
  obtain ⟨hlater, hword⟩ := hready
  obtain ⟨g, call, m, hwritten, -⟩ := exists_written hclock htext hlater
  obtain ⟨later, hlater⟩ := hlater
  have hanswered : d.answered errands r = m.seenBy d.number := by
    rw [answered, hwritten]
  have hrun : (cycle errands r).run d = _ := run_cycle_of_hours hclock hhours
  rw [hfirst, run_proceed_respondText _ _ _ _ _ hwritten] at hrun
  -- The end of the cycle is run on what the process of its beginning holds by now.
  have hconclude := yields_conclude_some (r := r) (d := m.seenBy d.number) rfl
    (hanswered ▸ hlater) (hanswered ▸ hword) (d.registry.status r.conversation).state
    (d.ledger.counters r.tenant) (d.trigger r) (.respondText "") g call
  obtain ⟨o, after, hend, inner, earlier, hinner, hcase⟩ :=
    yields_onProcess hconclude fun _ last hlast => by
      rw [← earlier_seenBy m d.number]
      rcases hlast with ⟨-, -, hclosed⟩ | ⟨-, -, hclosed⟩
      · exact hclosed.earlier
      · exact hclosed.earlier
  refine ⟨o, after, g, hrun.trans hend, ?_⟩
  have hreply : (d.written errands r).1 = .ok (g, call) := by rw [hwritten]
  rw [hinner]
  rcases hcase with ⟨hcan, ⟨pause, hout, hlow, hhigh⟩, hclosed⟩ | ⟨hcan, hout, hclosed⟩
  · refine Or.inl ⟨?_, ?_, hout.reply, hout.action, ⟨pause, hout.delay, hlow, hhigh⟩, ?_, ?_⟩
    · rw [hanswered]
      exact (canSend_iff _ _).mp hcan
    · rw [hreply, hout.call]
      rfl
    · intro tenant x
      have hcounters : inner.ledger.counters = _ := hclosed.counters
      rw [hanswered, hcounters]
      exact View.value_counted _ r.tenant tenant x
    · intro id
      rw [hanswered]
      exact hclosed.stopped_of_ne (by simp) id
  · refine Or.inr ⟨?_, ?_, hout.reply, hout.action, hout.delay, ?_, ?_⟩
    · rw [hanswered, ← canSend_iff, hcan]
      simp
    · rw [hreply, hout.call]
      rfl
    · rw [hanswered]
      exact hclosed.counters
    · intro id
      rw [hanswered]
      exact hclosed.stopped_of_ne (by simp) id

theorem Spoken.stopsExactly {o : CycleOutcome} {after : Desk} {g : Generation.Outcome}
    (h : d.Spoken errands r o after g) (hmay : d.MaySpeak r t)
    (hagrees : d.Agrees (d.answered errands r)) : StopsExactly r o after := by
  unfold StopsExactly
  rw [h.stopped, hagrees.status, hmay.running, h.action]
  simp

theorem Agrees.below_iff {other : Desk} (h : d.Agrees other) (tenant : String) :
    other.Below tenant ↔ d.Below tenant := by
  rw [Below, Below, h.counters, h.limits]

/-- A cycle ends in words just when it may speak and the tenant is still below its limits when the
reply is there. Of the three ways in which a cycle ends, only a spoken reply is counted. Where
nothing is done while a generator is at work, the tenant is then still below its limits. -/
theorem cycle_speaks_iff (hclock : d.clock.toUtc = .ok t)
    (hhours : d.settings.isOpen t = .ok inside)
    (htext : ∀ g, d.generator = some g → g.AnswersText d.network)
    (hready : d.MaySpeak r t → (d.answered errands r).Ready r.tenant) :
    ∃ o after, (cycle errands r).run d = (.ok o, after) ∧
      ((∃ text, o.action = .respondText text) ↔
        d.MaySpeak r t ∧ (d.answered errands r).Below r.tenant) ∧
      ((d.MaySpeak r t ∧ (d.answered errands r).Below r.tenant ∧
          ∃ g, d.Spoken errands r o (after.seenBy d.number) g) ∨
        (d.MaySpeak r t ∧ ¬ (d.answered errands r).Below r.tenant ∧
          ∃ g, d.PutOff errands r o (after.seenBy d.number) g) ∨
        (¬ d.MaySpeak r t ∧ d.Silent r o after)) ∧
      (errands.Idle → ((∃ text, o.action = .respondText text) ↔ d.MaySpeak r t) ∧
        (d.MaySpeak r t → d.Agrees (d.answered errands r)) ∧
        StopsExactly r o (after.seenBy d.number)) := by
  by_cases hmay : d.MaySpeak r t
  · have hidle := agrees_answered hclock htext (hready hmay).clock
    obtain ⟨o, after, g, hrun, ⟨hbelow, hspoken⟩ | ⟨hbelow, hputOff⟩⟩ :=
      exists_spoken_or_putOff hclock hhours htext hmay (hready hmay)
    · have hwords : ∃ text, o.action = .respondText text := ⟨g.text, hspoken.action⟩
      exact ⟨o, after, hrun, iff_of_true hwords ⟨hmay, hbelow⟩, Or.inl ⟨hmay, hbelow, g, hspoken⟩,
        fun h => ⟨iff_of_true hwords hmay, fun _ => hidle h, hspoken.stopsExactly hmay (hidle h)⟩⟩
    · have hwords : ¬ ∃ text, o.action = .respondText text := by
        rintro ⟨text, haction⟩
        simp [hputOff.action] at haction
      exact ⟨o, after, hrun, iff_of_false hwords fun h => hbelow h.2,
        Or.inr (Or.inl ⟨hmay, hbelow, g, hputOff⟩),
        fun h => absurd (((hidle h).below_iff r.tenant).mpr hmay.below) hbelow⟩
  · obtain ⟨o, after, hsilent⟩ := exists_silent hclock hhours hmay
    have hwords : ¬ ∃ text, o.action = .respondText text := by
      rintro ⟨text, haction⟩
      have houtbound := hsilent.outbound
      simp [haction, Action.outbound] at houtbound
    have hseen : after.seenBy d.number = after := by
      rw [number, ← hsilent.earlier]
      exact seenBy_number after
    refine ⟨o, after, hsilent.unasked errands, iff_of_false hwords fun h => hmay h.1,
      Or.inr (Or.inr ⟨hmay, hsilent⟩), fun _ => ⟨iff_of_false hwords hmay,
        fun h => absurd h hmay, ?_⟩⟩
    rw [hseen]
    exact hsilent.stopped

/-- A greeting at noon, with nothing else going on, is answered. -/
theorem cycle_speaks_iff_noon :
    let noon : Timestamp := ⟨738000 * Timestamp.day + 43200 * Timestamp.second, some 0⟩
    let generator : Generation.Generator := .rehearsed (.reply (.str "Bonjour") (.str "stub"))
    let d : Desk := { Desk.new {} (some generator) default noon with
      catalogue := Catalogue.load [{ id := "soap", name := "Savon" }] }
    let r : Incoming := { tenant := "shop", conversation := "chat", message := some "Bonjour"
                          product := some "soap" }
    let errands : Errands := fun _ d => (none, d)
    d.clock.toUtc = .ok noon ∧ d.settings.isOpen noon = .ok true ∧
    generator.AnswersText d.network ∧ (d.answered errands r).Ready r.tenant ∧
    ∃ o after, (cycle errands r).run d = (.ok o, after) ∧ ∃ text, o.action = .respondText text := by
  intro noon generator d r errands
  have hhours : d.settings.isOpen noon = .ok true := by decide +kernel
  have hanswers : generator.AnswersText d.network := by
    intro c hc
    cases hc
    exact ⟨_, rfl⟩
  have hready : (d.answered errands r).Ready r.tenant :=
    ⟨⟨noon, by decide +kernel⟩, by decide +kernel⟩
  have hmay : d.MaySpeak r noon := ⟨by decide +kernel, by decide +kernel, by decide +kernel, hhours,
    by decide +kernel, by decide +kernel, by decide +kernel⟩
  refine ⟨rfl, hhours, hanswers, hready, ?_⟩
  obtain ⟨o, after, hrun, -, -, hidle⟩ := @cycle_speaks_iff d r noon errands true rfl hhours
    (fun g hg => by cases hg; exact hanswers) fun _ => hready
  exact ⟨o, after, hrun, (hidle fun _ _ => rfl).1.mpr hmay⟩

/-- One message is allowed on a day, and it is sent for another client while the generator is at
work: the reply is put off, although the cycle might speak when it began. A counter far below zero
leaves no reply at all, since no pause is known. -/
theorem maySpeak_insufficient :
    let noon : Timestamp := ⟨738000 * Timestamp.day + 43200 * Timestamp.second, some 0⟩
    let generator : Generation.Generator := .rehearsed (.reply (.str "Bonjour") (.str "stub"))
    let settings : Settings := { limits := { messagesPerDay := 1 } }
    let d : Desk := { Desk.new settings (some generator) default noon with
      catalogue := Catalogue.load [{ id := "soap", name := "Savon" }] }
    let usage : Usage := { messagesToday := -10 ^ 400, lastReset := noon }
    let deep : Desk := ((restoreUsage "shop" usage).run d).2
    let r : Incoming := { tenant := "shop", conversation := "chat", message := some "Bonjour"
                          product := some "soap" }
    let errands : Errands := fun _ d => (none, ((tryMessage "shop").run d).2)
    generator.AnswersText d.network ∧ d.MaySpeak r noon ∧ deep.MaySpeak r noon ∧
    ((cycle errands r).run d).1.toOption.map (·.action) = some (.delay exhaustedDelaySeconds) ∧
    ((cycle (fun _ d => (none, d)) r).run deep).1.toOption.map (·.action) = none := by
  intro noon generator settings d usage deep r errands
  refine ⟨?_, ⟨?_, ?_, ?_, ?_, ?_, ?_, ?_⟩, ⟨?_, ?_, ?_, ?_, ?_, ?_, ?_⟩, ?_, ?_⟩
  · intro c hc
    cases hc
    exact ⟨_, rfl⟩
  all_goals decide +kernel

end Desk

end SalesDesk
