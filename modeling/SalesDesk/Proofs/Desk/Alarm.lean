import SalesDesk.Proofs.Desk.Discretion
import SalesDesk.Proofs.Desk.Wording

/-!
# Alarms

A cycle alerts a human once where its message has a trigger or its action asks for a human, and
never otherwise. The alert comes after the reply and goes to the channel that is configured then; it
was sent if the service has answered that it was.
-/

namespace SalesDesk

open Quota

namespace Alert

/-- A bot and a chat are named. -/
def Channel.IsConfigured (c : Channel) : Prop := c.botToken.getD "" ≠ "" ∧ c.chatId.getD "" ≠ ""

instance (c : Channel) : Decidable c.IsConfigured := inferInstanceAs (Decidable (_ ∧ _))

/-- The request that delivers a text over a configured channel. -/
def Channel.request (c : Channel) (text : String) : Post :=
  { url := "https://api.telegram.org/bot" ++ c.botToken.getD "" ++ "/sendMessage"
    json := .obj [("chat_id", .str (c.chatId.getD "")), ("text", .str text),
      ("parse_mode", .str "Markdown")]
    timeout := .int 10 }

theorem Channel.post?_eq (c : Channel) (text : String) :
    c.post? text = if c.IsConfigured then some (c.request text) else none := by
  obtain ⟨token, chat⟩ := c
  cases token with
  | none => simp [post?, IsConfigured]
  | some token =>
    cases chat with
    | none => simp [post?, IsConfigured]
    | some chat =>
      by_cases hempty : token = "" ∨ chat = ""
      · have hnot : ¬ (⟨some token, some chat⟩ : Channel).IsConfigured :=
          fun h => hempty.elim h.1 h.2
        simp only [post?]
        rw [if_pos hempty, if_neg hnot]
      · have hconfigured : (⟨some token, some chat⟩ : Channel).IsConfigured := not_or.mp hempty
        simp only [post?]
        rw [if_neg hempty, if_pos hconfigured]
        rfl

theorem reason?_ne_none_iff (trigger : Option Trigger) (action : Action) :
    reason? trigger action ≠ none ↔ trigger ≠ none ∨ ∃ reason, action = .alertHuman reason := by
  cases trigger with
  | some t => simp [reason?]
  | none => cases action <;> simp [reason?]

theorem eq_of_reason? {trigger : Option Trigger} {action : Action} {reason : String}
    (h : reason? trigger action = some reason) :
    (∀ t, trigger = some t → reason = t.describe) ∧
      (trigger = none → action = .alertHuman reason) := by
  cases trigger with
  | some t =>
    refine ⟨?_, nofun⟩
    rintro _ ⟨⟩
    exact (Option.some.inj h).symm
  | none =>
    refine ⟨nofun, fun _ => ?_⟩
    cases action with
    | alertHuman given => exact congrArg Action.alertHuman (Option.some.inj h)
    | _ => cases h

end Alert

namespace Desk

open Generation

variable {d : Desk} {v : View} {t : Timestamp} {errands : Errands} {r : Incoming}
  {o : CycleOutcome} {after : Desk}

/-- The alerts of a cycle over a channel whose service answers as given: one, or none. -/
structure Alarmed (c : Alert.Channel) (answer : SalesDesk.Answer) (r : Incoming) (o : CycleOutcome)
    (alerts : List Post) : Prop where
  atMostOne : alerts.length ≤ 1
  one_iff : alerts.length = 1 ↔
    c.IsConfigured ∧ (o.trigger ≠ none ∨ ∃ reason, o.action = .alertHuman reason)
  tells : ∀ p ∈ alerts, ∃ reason, p = c.request (r.alarmText reason) ∧
    (∀ t, o.trigger = some t → reason = t.describe) ∧
    (o.trigger = none → o.action = .alertHuman reason)
  sent_iff : o.alertSent = true ↔ alerts.length = 1 ∧ ∃ body, answer = .status 200 body

theorem tellings_ne_nil_iff (c : Alert.Channel) (r : Incoming) (reason : Option String) :
    tellings c r reason ≠ [] ↔ c.IsConfigured ∧ reason ≠ none := by
  cases reason with
  | none => simp [tellings]
  | some text =>
    by_cases h : c.IsConfigured <;> simp [tellings, Alert.Channel.post?_eq, h]

theorem length_tellings_eq_one_iff (c : Alert.Channel) (r : Incoming) (reason : Option String) :
    (tellings c r reason).length = 1 ↔ tellings c r reason ≠ [] := by
  unfold tellings
  cases reason.bind fun text => c.post? (r.alarmText text) <;> simp

theorem alarmed_tellings {c : Alert.Channel} {answer : SalesDesk.Answer}
    (h : o.alertSent = true ↔ tellings c r (Alert.reason? o.trigger o.action) ≠ [] ∧
      ∃ body, answer = .status 200 body) :
    Alarmed c answer r o (tellings c r (Alert.reason? o.trigger o.action)) where
  atMostOne := Option.length_toList_le
  one_iff := by
    rw [length_tellings_eq_one_iff, tellings_ne_nil_iff, Alert.reason?_ne_none_iff]
  tells p hp := by
    obtain ⟨reason, hreason, hpost⟩ := Option.bind_eq_some_iff.mp (Option.mem_toList.mp hp)
    rw [Alert.Channel.post?_eq] at hpost
    split_ifs at hpost
    exact ⟨reason, (Option.some.inj hpost).symm, Alert.eq_of_reason? hreason⟩
  sent_iff := by rw [h, length_tellings_eq_one_iff]

/-! ## The end of a cycle -/

variable {state : Conversation.State} {before : Snapshot} {trigger : Option Alert.Trigger}
  {generated : Option (Outcome × Option Call)}

/-- An outcome keeps the trigger and the reply of its cycle, and the posts are as they were but for
the alerts that are due. -/
structure Alarms (first : Desk) (r : Incoming) (trigger : Option Alert.Trigger)
    (reply : Option Outcome) (o : CycleOutcome) (later : Desk) : Prop where
  trigger : o.trigger = trigger
  reply : o.reply = reply
  alerts : ∃ alerts, later.outbox.posts = first.outbox.posts ++ alerts ∧
    Alarmed first.settings.channel first.network.alerts r o alerts

theorem yields_wrapUp_alarms (hclock : d.clock.toUtc = .ok t) (settled : Action × Option Int) :
    (wrapUp r state before trigger generated settled).Yields d
      (d.Alarms r trigger (generated.map (·.1))) := by
  unfold wrapUp
  refine (yields_alert rfl hclock trigger settled.1).bind fun sent later h => ?_
  obtain ⟨hlater, hsent⟩ := h
  have hend (last : Desk) (v : View) (hlast : last.view = v) (hread : v.clock.toUtc = .ok t)
      (hposts : v.posts = d.outbox.posts ++
        tellings d.settings.channel r (Alert.reason? trigger settled.1)) :
      (finish r state before trigger generated settled.1 settled.2 sent).Yields last
        (d.Alarms r trigger (generated.map (·.1))) := by
    refine (yields_finish hlast hread sent).mono fun o final h => ?_
    obtain ⟨hout, ⟨htrigger, halert⟩, status, hview, -⟩ := h
    refine ⟨htrigger, hout.reply, _, (congrArg View.posts hview).trans hposts, ?_⟩
    rw [← htrigger, ← hout.action] at hsent ⊢
    rw [← halert] at hsent
    exact alarmed_tellings hsent
  by_cases hstop : settled.1 = .stopAutomation
  · rw [if_pos hstop]
    refine (yields_stopAutomation hlater hclock r.conversation).bind fun _ last h => ?_
    exact hend last _ h hclock rfl
  · rw [if_neg hstop]
    exact hend later _ hlater hclock rfl

/-- A reply is admitted or put off without a post. -/
theorem unposted_of_settle {g : Outcome} {settled : Action × Option Int}
    (hclock : d.clock.toUtc = .ok t) (h : (settle r g).run d = (.ok settled, after)) :
    after.outbox.posts = d.outbox.posts ∧ after.settings = d.settings ∧
      after.network = d.network := by
  obtain ⟨a, ha⟩ := exists_account hclock r.tenant
  unfold settle at h
  cases hcan : Send.message.can a with
  | true =>
    cases hpause : a.delay d.base with
    | ok pause =>
      have hadmitted : (tryMessage r.tenant).run d = _ :=
        run_trySend_admitted (x := .message) ha hcan hpause
      rw [Act.run_bind_ok hadmitted] at h
      cases h
      exact ⟨rfl, rfl, rfl⟩
    | error fault =>
      have hfault : (tryMessage r.tenant).run d = _ :=
        run_trySend_noPause (x := .message) ha hcan hpause
      rw [Act.run_bind_error hfault] at h
      cases h
  | false =>
    have hrefused : (tryMessage r.tenant).run d = _ :=
      run_trySend_refused (x := .message) ha hcan hclock
    rw [Act.run_bind_ok hrefused, if_neg (by simp),
      Act.run_bind_ok (run_notify (by exact hclock) _)] at h
    cases h
    exact ⟨rfl, rfl, rfl⟩

end Desk

/-! ## Reading the clock -/

namespace Act

variable {α β : Type} {act : Act α} {next : α → Act β}

/-- An act has a result only where the clock can be read. -/
def ReadsClock (act : Act α) : Prop :=
  ∀ (d : Desk) (a : α) (after : Desk), act.run d = (.ok a, after) → ∃ t, d.clock.toUtc = .ok t

theorem readsClock_now : Desk.now.ReadsClock := by
  intro d a after h
  cases hclock : d.clock.toUtc with
  | ok t => exact ⟨t, rfl⟩
  | error e =>
    rw [Desk.run_now_error hclock] at h
    cases h

theorem ReadsClock.bind (h : act.ReadsClock) : (act >>= next).ReadsClock := by
  intro d b after hrun
  rcases hact : act.run d with ⟨e | a, later⟩
  · rw [run_bind_error hact] at hrun
    cases hrun
  · exact h d a later hact

theorem ReadsClock.after (hsteady : act.Leads Desk.Steady) (h : ∀ a, (next a).ReadsClock) :
    (act >>= next).ReadsClock := by
  intro d b after hrun
  have hlater := hsteady d
  rcases hact : act.run d with ⟨e | a, later⟩
  · rw [run_bind_error hact] at hrun
    cases hrun
  · rw [run_bind_ok hact] at hrun
    rw [hact] at hlater
    rw [← hlater.clock]
    exact h a later b after hrun

end Act

namespace Desk

open Generation

variable {d : Desk} {t : Timestamp} {errands : Errands} {r : Incoming} {o : CycleOutcome}
  {after : Desk} {state : Conversation.State} {before : Snapshot} {trigger : Option Alert.Trigger}
  {generated : Option (Outcome × Option Call)}

/-- A cycle needs the time for its record. -/
theorem readsClock_wrapUp (settled : Action × Option Int) :
    (wrapUp r state before trigger generated settled).ReadsClock := by
  have hfinish (sent : Bool) :
      (finish r state before trigger generated settled.1 settled.2 sent).ReadsClock := by
    have hrecord : (recordCycle r state before settled.1 (generated.map (·.1))).ReadsClock := by
      unfold recordCycle
      apply Act.ReadsClock.after (frame_steady.leads_account r.tenant _)
      intro counted
      exact Act.readsClock_now.bind
    exact hrecord.bind
  have hstopped : (stopAutomation r.conversation).Leads Steady :=
    frame_steady.leads_stopAutomation fun _ => ⟨rfl, rfl⟩
  unfold wrapUp
  apply Act.ReadsClock.after (frame_steady.leads_alert r trigger settled.1)
  intro sent
  by_cases hstop : settled.1 = .stopAutomation
  · rw [if_pos hstop]
    exact .after hstopped fun _ => hfinish sent
  · rw [if_neg hstop]
    exact hfinish sent

theorem readsClock_conclude (first : Action) :
    (conclude r state before trigger first generated).ReadsClock := by
  cases generated with
  | none => exact readsClock_wrapUp (first, none)
  | some given =>
    rw [conclude_some]
    exact .after (frame_steady.leads_settle (Frame.allows_steady r) given.1) readsClock_wrapUp

/-! ## Whole cycles -/

theorem alarms_of_wrapUp {settled : Action × Option Int}
    (hrun : (wrapUp r state before trigger generated settled).run d = (.ok o, after)) :
    d.Alarms r trigger (generated.map (·.1)) o after := by
  obtain ⟨t, hclock⟩ := readsClock_wrapUp settled d o after hrun
  have hyields : (wrapUp r state before trigger generated settled).Yields d _ :=
    yields_wrapUp_alarms hclock settled
  obtain ⟨other, last, hother, halarms⟩ := hyields
  rw [hrun] at hother
  cases hother
  exact halarms

theorem alarms_of_conclude {first : Action}
    (hrun : (conclude r state before trigger first generated).run d = (.ok o, after)) :
    d.Alarms r trigger (generated.map (·.1)) o after := by
  obtain ⟨t, hclock⟩ := readsClock_conclude first d o after hrun
  cases generated with
  | none =>
    rw [conclude_none] at hrun
    exact alarms_of_wrapUp hrun
  | some given =>
    rw [conclude_some] at hrun
    rcases hsettle : (settle r given.1).run d with ⟨e | settled, later⟩
    · rw [Act.run_bind_error hsettle] at hrun
      cases hrun
    · rw [Act.run_bind_ok hsettle] at hrun
      obtain ⟨hposts, hsettings, hnetwork⟩ := unposted_of_settle hclock hsettle
      obtain ⟨htrigger, hreply, alerts, hend, halarmed⟩ := alarms_of_wrapUp hrun
      rw [hposts] at hend
      rw [hsettings, hnetwork] at halarmed
      exact ⟨htrigger, hreply, alerts, hend, halarmed⟩

/-- What an act that goes on in an earlier process comes to and sends is what it comes to and sends
there. -/
theorem run_onProcess_seenBy {α : Type} (act : Act α) (number : Nat) (d : Desk) :
    ((onProcess number act).run d).1 = (act.run (d.seenBy number)).1 ∧
      ((onProcess number act).run d).2.outbox = (act.run (d.seenBy number)).2.outbox := by
  unfold seenBy
  cases hfound : d.earlier[number]? with
  | none =>
    rw [run_onProcess_of_none act hfound]
    exact ⟨rfl, rfl⟩
  | some process =>
    rcases hrun : act.run { d with toProcess := process } with ⟨result, last⟩
    rw [run_onProcess_earlier hfound hrun]
    exact ⟨rfl, rfl⟩

/-- A cycle that has an outcome was concluded, with a reply where it may speak and without one
elsewhere. -/
theorem concluded_of_cycle (hrun : (cycle errands r).run d = (.ok o, after)) :
    ∃ t state before first, d.clock.toUtc = .ok t ∧
      ((∃ given last, d.written errands r = (.ok given, last) ∧
          (onProcess d.number (conclude r state before (d.trigger r) first (some given))).run last =
            (.ok o, after)) ∨
        (conclude r state before (d.trigger r) first none).run (d.opened r) = (.ok o, after)) := by
  cases hclock : d.clock.toUtc with
  | error e =>
    rw [run_cycle_of_unread hclock] at hrun
    cases hrun
  | ok t =>
    cases hhours : d.settings.isOpen t with
    | error e =>
      rw [run_cycle hclock, hhours] at hrun
      cases hrun
    | ok inside =>
      rw [run_cycle_of_hours hclock hhours] at hrun
      refine ⟨t, (d.registry.status r.conversation).state, d.ledger.counters r.tenant,
        choose (d.registry.status r.conversation) (d.situation r inside), rfl, ?_⟩
      obtain ⟨-, hfirst⟩ | ⟨-, houtbound, -⟩ := choose_cases (r := r) hhours
      · rw [hfirst] at hrun ⊢
        rcases hwritten : d.written errands r with ⟨e | given, last⟩
        · have hwrite : (write errands r (.respondText "")).run (d.opened r) = (.error e, last) :=
            hwritten
          have hmap : (some <$> write errands r (.respondText "")).run (d.opened r) =
              (.error e, last) := by
            rw [Act.run_map, hwrite]
            rfl
          have hproceed : (proceed errands r d.number (d.registry.status r.conversation).state
              (d.ledger.counters r.tenant) (d.trigger r) (.respondText "")).run (d.opened r) =
                (.error e, last) := Act.run_bind_error hmap
          rw [hproceed] at hrun
          cases hrun
        · rw [run_proceed_respondText _ _ _ _ _ hwritten] at hrun
          exact Or.inl ⟨given, last, rfl, hrun⟩
      · have hnumber : d.number = (d.opened r).number :=
          congrArg (fun v => v.earlier.length) (view_opened hclock r).symm
        rw [proceed_of_outbound _ _ _ _ houtbound, hnumber, run_onProcess_newest] at hrun
        exact Or.inr hrun

/-- Where errands are idle, a generation sends requests to its service and nothing else. -/
theorem exists_posted_generate (hclock : d.clock.toUtc = .ok t) (hidle : errands.Idle)
    (guard : Guard) (draft : Draft) : ∃ asked records,
      ((generate errands guard draft).run d).2 = (d.posted asked).withLog records ∧
        ∀ p ∈ asked, Addresses d.generator p := by
  have hlook := Act.run_look (fun d => draft.start guard d.catalogue d.generator) d
  have hunasked : d.posted [] = d := by simp [posted]
  rw [generate_eq, Act.run_bind_ok hlook]
  cases hstart : draft.start guard d.catalogue d.generator with
  | error fallback =>
    refine ⟨[], (d.logged t fallback.2).outbox.records, ?_, by simp⟩
    rw [hunasked]
    dsimp only
    rw [Act.run_bind_ok (run_notify hclock fallback.2)]
    rfl
  | ok started =>
    obtain ⟨generator, call⟩ := started
    have hgenerator := Draft.generator_of_start hstart
    obtain ⟨completion, later, records, hask, hasked⟩ := exists_asked hclock errands generator call
    obtain ⟨asked, rfl, haddressed⟩ := hasked.exists_posted hidle hgenerator
    let judged := ((d.posted asked).withLog records).logged t
      (draft.finish guard generationMs completion).2
    refine ⟨asked, judged.outbox.records, ?_, haddressed⟩
    dsimp only
    rw [Act.run_bind_ok hask, run_judge (by exact hclock)]
    rfl

/-- The desk when a cycle alerts: with its reply, where it has one. -/
def alerting (d : Desk) (errands : Errands) (r : Incoming) (o : CycleOutcome) : Desk :=
  if o.reply.isSome then d.answered errands r else d.opened r

theorem outbox_seenBy (d : Desk) (number : Nat) : (d.seenBy number).outbox = d.outbox ∧
    (d.seenBy number).settings = d.settings ∧ (d.seenBy number).network = d.network := by
  unfold seenBy
  cases d.earlier[number]? <;> exact ⟨rfl, rfl, rfl⟩

/-- Up to its reply a cycle asks its generator, and does nothing else where errands are idle. -/
theorem exists_asked_alerting (hclock : d.clock.toUtc = .ok t) (h : errands.Idle ∨ o.reply = none) :
    (d.alerting errands r o).settings = d.settings ∧
      (d.alerting errands r o).network = d.network ∧
      ∃ asked, (d.alerting errands r o).outbox.posts = d.outbox.posts ++ asked ∧
        ∀ p ∈ asked, Addresses d.generator p := by
  have hview := view_opened hclock r
  unfold alerting
  by_cases hreply : o.reply.isSome = true
  · have hidle : errands.Idle := by
      rcases h with hidle | hnone
      · exact hidle
      · rw [hnone] at hreply
        cases hreply
    have hgenerator : (d.opened r).generator = d.generator := by
      obtain ⟨a, -, hopened⟩ := exists_opened_eq hclock r
      rw [hopened]
      rfl
    have hread : (d.opened r).clock.toUtc = .ok t := by
      rw [← hclock]
      exact congrArg (fun v => v.clock.toUtc) hview
    obtain ⟨asked, records, hwritten, haddressed⟩ := exists_posted_generate hread hidle
      (d.opened r).settings.guard
      { product := r.product, action := (Action.respondText "").name, prompt := r.promptText
        timeout := (d.opened r).settings.generationTimeout }
    have hlast : (d.written errands r).2 = ((d.opened r).posted asked).withLog records := hwritten
    obtain ⟨houtbox, hsettings, hnetwork⟩ := outbox_seenBy (d.written errands r).2 d.number
    rw [if_pos hreply, answered, houtbox, hsettings, hnetwork, hlast]
    rw [hgenerator] at haddressed
    refine ⟨congrArg View.settings hview, congrArg View.network hview, asked, ?_, haddressed⟩
    exact congrArg (fun v => v.posts ++ asked) hview
  · rw [if_neg hreply]
    refine ⟨congrArg View.settings hview, congrArg View.network hview, [], ?_, by simp⟩
    rw [List.append_nil]
    exact congrArg View.posts hview

/-- A cycle that has an outcome alerts a human once where the channel is configured and the message
has a trigger or the action asks for a human, and never otherwise. The alert names the trigger, or
else the reason of the action, and counts as sent where it is answered so. As long as nothing else is
done while a generator is at work, the cycle posts nothing more but requests to this generator. -/
theorem cycle_alerts_once (hrun : (cycle errands r).run d = (.ok o, after)) :
    let due := d.alerting errands r o
    o.trigger = d.settings.detector.detect r.message r.misunderstandings ∧
    (∃ alerts, after.outbox.posts = due.outbox.posts ++ alerts ∧
      Alarmed due.settings.channel due.network.alerts r o alerts) ∧
    (errands.Idle ∨ o.reply = none → due.settings = d.settings ∧ due.network = d.network ∧
      ∃ asked, due.outbox.posts = d.outbox.posts ++ asked ∧
        ∀ p ∈ asked, Addresses d.generator p) := by
  intro due
  obtain ⟨t, state, before, first, hclock, ⟨given, last, hwritten, hend⟩ | hend⟩ :=
    concluded_of_cycle hrun
  · let act : Act CycleOutcome := conclude r state before (d.trigger r) first (some given)
    have hanswered : d.answered errands r = last.seenBy d.number := by rw [answered, hwritten]
    obtain ⟨hresult, houtbox⟩ := run_onProcess_seenBy act d.number last
    rw [hend] at hresult houtbox
    rcases hinner : act.run (last.seenBy d.number) with ⟨result, inner⟩
    rw [hinner] at hresult houtbox
    subst hresult
    obtain ⟨htrigger, hreply, alerts, hposts, halarmed⟩ := alarms_of_conclude hinner
    have hdue : due = last.seenBy d.number := by
      rw [← hanswered]
      exact if_pos (by rw [hreply]; rfl)
    refine ⟨htrigger, ⟨alerts, ?_, ?_⟩, exists_asked_alerting hclock⟩
    · rw [hdue, ← hposts]
      exact congrArg Outbox.posts houtbox
    · rw [hdue]
      exact halarmed
  · obtain ⟨htrigger, hreply, alerts, hposts, halarmed⟩ := alarms_of_conclude hend
    have hdue : due = d.opened r := if_neg (by rw [hreply]; simp)
    refine ⟨htrigger, ⟨alerts, ?_, ?_⟩, exists_asked_alerting hclock⟩
    · rw [hdue]
      exact hposts
    · rw [hdue]
      exact halarmed

/-- An angry message is shown to a human over a channel, and the service takes it: one alert. -/
theorem cycle_alerts_once_angry :
    let noon : Timestamp := ⟨738000 * Timestamp.day + 43200 * Timestamp.second, some 0⟩
    let settings : Settings := { alertBotToken := some "bot", alertChatId := some "humans" }
    let d : Desk := Desk.new settings none default noon
    let r : Incoming := { tenant := "shop", conversation := "chat", message := some "Arnaque !" }
    let errands : Errands := fun _ d => (none, d)
    ∃ o after, (cycle errands r).run d = (.ok o, after) ∧
      after.outbox.posts = [settings.channel.request (r.alarmText "Anger")] ∧
      o.trigger = some { kind := .anger } ∧ o.alertSent = true := by
  intro noon settings d r errands
  have hok : ((cycle errands r).run d).1.toOption.isSome = true := by decide +kernel
  have hanger : settings.detector.detect r.message r.misunderstandings =
      some { kind := .anger } := by decide +kernel
  have hidle : errands.Idle := fun _ _ => rfl
  rcases hrun : (cycle errands r).run d with ⟨e | o, after⟩
  · rw [hrun] at hok
    cases hok
  · obtain ⟨htrigger, ⟨alerts, hposts, halarmed⟩, hdue⟩ := cycle_alerts_once hrun
    obtain ⟨hsettings, hnetwork, asked, hasked, haddressed⟩ := hdue (Or.inl hidle)
    have hunasked : asked = [] := by
      apply List.eq_nil_iff_forall_not_mem.mpr
      intro p hp
      obtain ⟨s, request, hs, -⟩ := haddressed p hp
      cases hs
    have hfound : o.trigger = some { kind := .anger } := htrigger.trans hanger
    rw [hsettings, hnetwork] at halarmed
    rw [hasked, hunasked] at hposts
    have hone : alerts.length = 1 :=
      halarmed.one_iff.mpr ⟨by decide, Or.inl (by rw [hfound]; exact nofun)⟩
    obtain ⟨alert, rfl⟩ := List.length_eq_one_iff.mp hone
    obtain ⟨reason, rfl, hreason, -⟩ := halarmed.tells alert List.mem_cons_self
    have hsaid : reason = "Anger" := hreason _ hfound
    refine ⟨o, after, rfl, ?_, hfound, halarmed.sent_iff.mpr ⟨hone, _, rfl⟩⟩
    rw [hposts, hsaid]
    rfl

end Desk

end SalesDesk
