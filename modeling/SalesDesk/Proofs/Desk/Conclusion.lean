import SalesDesk.Proofs.Desk.View

/-!
# The end of a cycle

After the generation a cycle admits and counts the reply, alerts a human, stops the automation where
that was chosen, records what was done and moves the conversation on. Only the admission touches
counters, only an alert is posted, and only a chosen stop sets the flag of the conversation.
-/

namespace SalesDesk

open Quota

namespace View

def counted (v : View) (tenant : String) : View :=
  { v with counters := Function.update v.counters tenant (v.counters tenant).withMessage }

theorem value_counted (v : View) (tenant other : String) (x : Gauge) :
    x.value ((v.counted tenant).counters other) =
      x.value (v.counters other) + if other = tenant ∧ x.counts .message = true then 1 else 0 := by
  unfold counted
  by_cases hother : other = tenant
  · simp only [hother, Function.update_self, true_and]
    exact x.value_count .message _
  · simp only [Function.update_of_ne hother, hother, false_and, if_false, add_zero]

/-- What the end of a cycle leaves of a view, once the action is settled. -/
structure Closed (v : View) (conversation : String) (action : Action) (after : View) : Prop where
  earlier : after.earlier = v.earlier
  counters : after.counters = v.counters
  posts : ∃ posts, after.posts = v.posts ++ posts ∧
    ∀ p ∈ posts, ∃ text, v.settings.channel.post? text = some p
  stopped : ∀ id, (after.status id).stopped =
    ((v.status id).stopped || decide (id = conversation ∧ action = .stopAutomation))

theorem Closed.stopped_of_ne {v after : View} {conversation : String} {action : Action}
    (h : v.Closed conversation action after) (hne : action ≠ .stopAutomation) (id : String) :
    (after.status id).stopped = (v.status id).stopped := by
  rw [h.stopped id]
  simp [hne]

end View

namespace Alert

theorem posts_send (c : Channel) (answer : Answer) (reason conversation : String)
    (context : Context) : (send c answer reason conversation context).posts =
      (c.post? (text reason conversation context)).toList := by
  unfold send
  cases c.post? (text reason conversation context) with
  | none => rfl
  | some post => cases answer <;> rfl

theorem sent_send_iff (c : Channel) (answer : Answer) (reason conversation : String)
    (context : Context) : (send c answer reason conversation context).sent = true ↔
      (send c answer reason conversation context).posts ≠ [] ∧ ∃ body, answer = .status 200 body := by
  unfold send
  cases c.post? (text reason conversation context) with
  | none => simp
  | some post => cases answer <;> simp

/-- What a human is told: the trigger, or else the reason of an action that asks for a human. -/
def reason? (trigger : Option Trigger) (action : Action) : Option String :=
  match trigger, action with
  | some t, _ => some t.describe
  | none, .alertHuman reason => some reason
  | none, _ => none

end Alert

namespace Desk

variable {d : Desk} {v : View} {t : Timestamp} {r : Incoming} {action : Action}

/-- A message is admitted just when its counters are below their limits. Its pause is known, since
counters that fit a word of 64 bits have a share of the limit. -/
theorem yields_tryMessage (hv : d.view = v) (hclock : v.clock.toUtc = .ok t) (tenant : String)
    (hword : -Word.bound 64 ≤ (v.counters tenant).messagesToday) :
    (tryMessage tenant).Yields d fun admission later =>
      (v.canSend tenant = true ∧ (∃ pause, admission = ⟨true, v.counters tenant,
          (v.counters tenant).withMessage, some pause⟩ ∧ 2 ≤ pause ∧ pause ≤ 24) ∧
        later.view = v.counted tenant) ∨
      (v.canSend tenant = false ∧
        admission = ⟨false, v.counters tenant, v.counters tenant, none⟩ ∧ later.view = v) := by
  subst hv
  obtain ⟨a, ha⟩ := exists_account hclock tenant
  have hcounters : d.view.counters tenant = a.snapshot := Ledger.counters_of_account ha
  have hlimits : d.view.limits tenant = a.limits := Ledger.limitsOf_of_account ha
  have hcan : d.view.canSend tenant = Send.message.can a := by
    rw [View.canSend, hcounters, hlimits]
    rfl
  rw [hcounters] at hword
  rw [hcan, hcounters]
  cases hsend : Send.message.can a with
  | true =>
    cases hpause : a.delay d.base with
    | ok pause =>
      obtain ⟨hlow, hhigh⟩ := Account.delay_bounds d.base_bounds hpause
      refine ⟨_, _, run_trySend_admitted (x := .message) ha hsend hpause,
        Or.inl ⟨rfl, ⟨pause, rfl, hlow, hhigh⟩, ?_⟩⟩
      have hsame : (a.withSnapshot (Send.message.count a.snapshot)).limits =
          d.drawn.ledger.limitsOf tenant := hlimits.symm
      rw [view_withAccount hsame, View.counted, hcounters]
      rfl
    | error fault =>
      have hbeyond := Account.beyond_of_delay_error hpause
      have hbelow := (Gauge.can_iff .message a).mp hsend .messagesToday rfl
      have hbound : Word.bound 64 = 2 ^ 63 := rfl
      simp only [Gauge.value, Gauge.limit] at hbelow
      omega
  | false =>
    exact ⟨_, _, run_trySend_refused (x := .message) ha hsend hclock,
      Or.inr ⟨rfl, rfl, view_entered ha⟩⟩

theorem yields_settle (hv : d.view = v) (hclock : v.clock.toUtc = .ok t)
    (hword : -Word.bound 64 ≤ (v.counters r.tenant).messagesToday) (g : Generation.Outcome) :
    (settle r g).Yields d fun result later =>
      (v.canSend r.tenant = true ∧ (∃ pause, result = (.respondText g.text, some pause) ∧
          2 ≤ pause ∧ pause ≤ 24) ∧ later.view = v.counted r.tenant) ∨
      (v.canSend r.tenant = false ∧ result = (.delay exhaustedDelaySeconds, none) ∧
        later.view = v) := by
  unfold settle
  refine (yields_tryMessage hv hclock r.tenant hword).bind fun admission later h => ?_
  rcases h with ⟨hcan, ⟨pause, rfl, hlow, hhigh⟩, hview⟩ | ⟨hcan, rfl, hview⟩
  · exact Act.yields_pure (Or.inl ⟨hcan, ⟨pause, rfl, hlow, hhigh⟩, hview⟩)
  · rw [if_neg (by simp)]
    exact (yields_notify hview hclock _).bind fun _ _ hend =>
      Act.yields_pure (Or.inr ⟨hcan, rfl, hend⟩)

/-- The text of an alert about a message. -/
def Incoming.alarmText (r : Incoming) (reason : String) : String :=
  "🚨 *ALERT* - Conversation: " ++ r.conversation ++ "\nTrigger: " ++ reason ++
    "\nRequires human intervention" ++
    ("\n\n\x60\x60\x60\n" ++ ("  tenant_id: " ++ r.tenant) ++ "\n\x60\x60\x60")

theorem text_eq_alarmText (r : Incoming) (reason : String) :
    Alert.text reason r.conversation [("tenant_id", .str r.tenant)] = r.alarmText reason :=
  rfl

/-- The requests by which a reason is told. -/
def tellings (c : Alert.Channel) (r : Incoming) (reason : Option String) : List Post :=
  (reason.bind fun text => c.post? (r.alarmText text)).toList

/-- Tells a human a reason; was it sent? -/
def raiseAlarm (r : Incoming) (reason : String) : Act Bool := do
  let delivery ← Act.look fun d =>
    Alert.send d.settings.channel d.network.alerts reason r.conversation
      [("tenant_id", .str r.tenant)]
  send delivery.posts
  notify delivery.notices
  return delivery.sent

theorem alert_eq (r : Incoming) (trigger : Option Alert.Trigger) (action : Action) :
    alert r trigger action = (Alert.reason? trigger action).elim (pure false) (raiseAlarm r) := by
  cases trigger with
  | some trigger => rfl
  | none => cases action <;> rfl

theorem yields_raiseAlarm (hv : d.view = v) (hclock : v.clock.toUtc = .ok t) (reason : String) :
    (raiseAlarm r reason).Yields d fun sent later =>
      let alerts := tellings v.settings.channel r (some reason)
      later.view = { v with posts := v.posts ++ alerts } ∧
        (sent = true ↔ alerts ≠ [] ∧ ∃ body, v.network.alerts = .status 200 body) := by
  have hsettings : d.settings = v.settings := congrArg View.settings hv
  have hnetwork : d.network = v.network := congrArg View.network hv
  have hposts := Alert.posts_send v.settings.channel v.network.alerts reason r.conversation
    [("tenant_id", .str r.tenant)]
  have hsent := Alert.sent_send_iff v.settings.channel v.network.alerts reason r.conversation
    [("tenant_id", .str r.tenant)]
  rw [text_eq_alarmText] at hposts
  refine (Act.yields_look (p := fun delivery later => later.view = v ∧
    delivery = Alert.send v.settings.channel v.network.alerts reason r.conversation
      [("tenant_id", .str r.tenant)]) _ ⟨hv, by rw [hsettings, hnetwork]⟩).bind
      fun delivery later h => ?_
  obtain ⟨hlater, rfl⟩ := h
  refine (yields_send hlater _).bind fun _ later h => ?_
  refine (yields_notify h hclock _).bind fun _ last hlast => Act.yields_pure ⟨?_, ?_⟩
  · rw [hlast, hposts]
    rfl
  · rw [hsent, hposts]
    rfl

/-- An alert is told where there is a reason for it, and sent where it is answered so. -/
theorem yields_alert (hv : d.view = v) (hclock : v.clock.toUtc = .ok t)
    (trigger : Option Alert.Trigger) (action : Action) :
    (alert r trigger action).Yields d fun sent later =>
      let alerts := tellings v.settings.channel r (Alert.reason? trigger action)
      later.view = { v with posts := v.posts ++ alerts } ∧
        (sent = true ↔ alerts ≠ [] ∧ ∃ body, v.network.alerts = .status 200 body) := by
  rw [alert_eq]
  cases Alert.reason? trigger action with
  | none => exact Act.yields_pure (by simp [tellings, hv])
  | some reason => exact yields_raiseAlarm hv hclock reason

theorem exists_post_of_mem_tellings {c : Alert.Channel} {reason : Option String} {p : Post}
    (h : p ∈ tellings c r reason) : ∃ text, c.post? text = some p := by
  obtain ⟨reason, -, hpost⟩ := Option.bind_eq_some_iff.mp (Option.mem_toList.mp h)
  exact ⟨_, hpost⟩

theorem yields_stopAutomation (hv : d.view = v) (hclock : v.clock.toUtc = .ok t) (id : String) :
    (stopAutomation id).Yields d fun _ later => later.view =
      { v with status := Function.update v.status id { v.status id with stopped := true } } := by
  subst hv
  unfold stopAutomation
  refine (Act.yields_change (p := fun _ later => later.view = _) _
    (view_update (fun s => { s with stopped := true }) id)).bind fun _ later h => ?_
  exact yields_notify h hclock _

theorem yields_recordCycle (hv : d.view = v) (hclock : v.clock.toUtc = .ok t)
    (state : Conversation.State) (before : Snapshot) (action : Action)
    (generated : Option Generation.Outcome) :
    (recordCycle r state before action generated).Yields d fun _ later => later.view = v := by
  unfold recordCycle
  refine (yields_snapshot hv hclock _).bind fun after later h => ?_
  obtain ⟨-, h⟩ := h
  refine (yields_now h hclock).bind fun time later h => ?_
  obtain ⟨rfl, h⟩ := h
  refine (yields_makeRecord h hclock _).bind fun record later h => ?_
  refine (yields_keepRecord h hclock record).bind fun kept later h => ?_
  cases kept with
  | success record => exact Act.yields_pure h
  | failure error code =>
    exact (yields_notify h hclock _).bind fun _ _ hend => Act.yields_pure hend

/-- Moving a conversation on leaves all flags. -/
theorem yields_close (hv : d.view = v) (hclock : v.clock.toUtc = .ok t) (conversation : String)
    (state : Conversation.State) (event : Option Conversation.Event) :
    (close conversation state event).Yields d fun _ later =>
      ∃ status, later.view = { v with status } ∧
        ∀ id, (status id).stopped = (v.status id).stopped := by
  cases event with
  | none => exact Act.yields_pure ⟨v.status, hv, fun _ => rfl⟩
  | some e =>
    have hmoved : ∀ id, (Function.update v.status conversation { v.status conversation with
        state := (v.status conversation).state.next e } id).stopped = (v.status id).stopped := by
      intro id
      by_cases hid : id = conversation
      · rw [hid, Function.update_self]
      · rw [Function.update_of_ne hid]
    unfold close applyEvent
    refine Act.Yields.bind (p := fun _ later => ∃ status, later.view = { v with status } ∧
      ∀ id, (status id).stopped = (v.status id).stopped) ?_ fun _ _ hend => Act.yields_pure hend
    refine (yields_status hv conversation).bind fun status later h => ?_
    obtain ⟨-, hview⟩ := h
    subst hview
    refine (Act.yields_change (p := fun _ later => later.view = _) _
      (view_update (fun s => { s with state := s.state.next e }) conversation)).bind
        fun _ last hlast => ?_
    dsimp only
    split_ifs
    · exact Act.yields_pure ⟨_, hlast, hmoved⟩
    · exact (yields_notify hlast hclock _).bind fun _ _ hend =>
        Act.yields_pure ⟨_, hend, hmoved⟩

/-- The part of a cycle that follows the alert. -/
def finish (r : Incoming) (state : Conversation.State) (before : Snapshot)
    (trigger : Option Alert.Trigger)
    (generated : Option (Generation.Outcome × Option Generation.Call))
    (action : Action) (delaySeconds : Option Int) (alertSent : Bool) : Act CycleOutcome := do
  let audit ← recordCycle r state before action (generated.map (·.1))
  let stateAfter ← close r.conversation state (closingEvent r.event trigger)
  notify [r.notice .info "Decision cycle completed"
    [("action", .str action.name), ("state_before", .str state.name),
      ("state_after", .str stateAfter.name),
      ("trigger", .text? (trigger.map Alert.Trigger.describe))]]
  return { action, stateBefore := state, stateAfter, delaySeconds, trigger, alertSent
           reply := generated.map (·.1), call := generated.bind (·.2), audit }

/-- The part of a cycle that follows the admission. -/
def wrapUp (r : Incoming) (state : Conversation.State) (before : Snapshot)
    (trigger : Option Alert.Trigger)
    (generated : Option (Generation.Outcome × Option Generation.Call))
    (settled : Action × Option Int) : Act CycleOutcome := do
  let alertSent ← alert r trigger settled.1
  if settled.1 = .stopAutomation then stopAutomation r.conversation
  finish r state before trigger generated settled.1 settled.2 alertSent

variable {state : Conversation.State} {before : Snapshot} {trigger : Option Alert.Trigger}
  {generated : Option (Generation.Outcome × Option Generation.Call)} {delay : Option Int}

theorem conclude_none (first : Action) :
    conclude r state before trigger first none =
      wrapUp r state before trigger none (first, none) :=
  rfl

theorem conclude_some (first : Action)
    (generated : Generation.Outcome × Option Generation.Call) :
    conclude r state before trigger first (some generated) =
      settle r generated.1 >>= wrapUp r state before trigger (some generated) :=
  rfl

/-- What the outcome of a cycle says of its action, pause and generation. -/
structure CycleOutcome.Says (o : CycleOutcome) (action : Action) (delay : Option Int)
    (generated : Option (Generation.Outcome × Option Generation.Call)) : Prop where
  action : o.action = action
  delay : o.delaySeconds = delay
  reply : o.reply = generated.map (·.1)
  call : o.call = generated.bind (·.2)

theorem yields_finish (hv : d.view = v) (hclock : v.clock.toUtc = .ok t) (sent : Bool) :
    (finish r state before trigger generated action delay sent).Yields d fun o later =>
      o.Says action delay generated ∧ (o.trigger = trigger ∧ o.alertSent = sent) ∧
        ∃ status, later.view = { v with status } ∧
          ∀ id, (status id).stopped = (v.status id).stopped := by
  unfold finish
  refine (yields_recordCycle hv hclock state before action _).bind fun audit later h => ?_
  refine (yields_close h hclock _ _ _).bind fun stateAfter later h => ?_
  obtain ⟨status, hview, hstopped⟩ := h
  exact (yields_notify hview hclock _).bind fun _ _ hend =>
    Act.yields_pure ⟨⟨rfl, rfl, rfl, rfl⟩, ⟨rfl, rfl⟩, status, hend, hstopped⟩

theorem yields_wrapUp (hv : d.view = v) (hclock : v.clock.toUtc = .ok t) :
    (wrapUp r state before trigger generated (action, delay)).Yields d fun o later =>
      o.Says action delay generated ∧ v.Closed r.conversation action later.view := by
  unfold wrapUp
  refine (yields_alert hv hclock trigger action).bind fun sent later h => ?_
  obtain ⟨hview, -⟩ := h
  have hposts : ∀ p ∈ tellings v.settings.channel r (Alert.reason? trigger action),
      ∃ text, v.settings.channel.post? text = some p := fun _ => exists_post_of_mem_tellings
  by_cases hstop : action = .stopAutomation
  · simp only [hstop, if_true]
    refine (yields_stopAutomation hview hclock r.conversation).bind fun _ last h => ?_
    refine (yields_finish h hclock sent).mono fun o final h => ?_
    obtain ⟨hout, -, status, hfinal, hstopped⟩ := h
    refine ⟨hout, ?_⟩
    rw [hfinal]
    refine ⟨rfl, rfl, ⟨_, rfl, hposts⟩, fun id => ?_⟩
    rw [hstopped]
    by_cases hid : id = r.conversation
    · simp [hid]
    · simp [hid]
  · simp only [hstop, if_false]
    refine (yields_finish hview hclock sent).mono fun o final h => ?_
    obtain ⟨hout, -, status, hfinal, hstopped⟩ := h
    refine ⟨hout, ?_⟩
    rw [hfinal]
    refine ⟨rfl, rfl, ⟨_, rfl, hposts⟩, fun id => ?_⟩
    simp [hstopped, hstop]

/-- Without a generation a cycle ends in its first choice. -/
theorem yields_conclude_none (hv : d.view = v) (hclock : v.clock.toUtc = .ok t)
    (state : Conversation.State) (before : Snapshot) (trigger : Option Alert.Trigger)
    (first : Action) :
    (conclude r state before trigger first none).Yields d fun o later =>
      o.Says first none none ∧ v.Closed r.conversation first later.view := by
  rw [conclude_none]
  exact yields_wrapUp hv hclock

/-- After a generation a cycle ends in the reply, which is counted, or in putting it off. -/
theorem yields_conclude_some (hv : d.view = v) (hclock : v.clock.toUtc = .ok t)
    (hword : -Word.bound 64 ≤ (v.counters r.tenant).messagesToday) (state : Conversation.State)
    (before : Snapshot) (trigger : Option Alert.Trigger) (first : Action) (g : Generation.Outcome)
    (call : Option Generation.Call) :
    (conclude r state before trigger first (some (g, call))).Yields d fun o later =>
      (v.canSend r.tenant = true ∧ (∃ pause, o.Says (.respondText g.text) (some pause)
          (some (g, call)) ∧ 2 ≤ pause ∧ pause ≤ 24) ∧
        (v.counted r.tenant).Closed r.conversation (.respondText g.text) later.view) ∨
      (v.canSend r.tenant = false ∧
        o.Says (.delay exhaustedDelaySeconds) none (some (g, call)) ∧
        v.Closed r.conversation (.delay exhaustedDelaySeconds) later.view) := by
  rw [conclude_some]
  refine (yields_settle hv hclock hword g).bind fun settled later h => ?_
  rcases h with ⟨hcan, ⟨pause, rfl, hlow, hhigh⟩, hview⟩ | ⟨hcan, rfl, hview⟩
  · exact (yields_wrapUp hview hclock).mono fun o last h =>
      Or.inl ⟨hcan, ⟨pause, h.1, hlow, hhigh⟩, h.2⟩
  · exact (yields_wrapUp hview hclock).mono fun o last h => Or.inr ⟨hcan, h.1, h.2⟩

end Desk

end SalesDesk
