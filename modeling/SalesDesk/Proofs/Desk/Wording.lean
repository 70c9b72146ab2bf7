import SalesDesk.Proofs.Audit.Stores
import SalesDesk.Proofs.Desk.DoubleLock
import SalesDesk.Proofs.Desk.Keeping
import SalesDesk.Proofs.Desk.Parallel
import SalesDesk.Proofs.Desk.Speaking

/-!
# Generated text decides nothing

The same message is handled on one desk with two generators. Whatever the two generators do, both
cycles take the same decision: they differ in the words that are sent, in what is kept of these
words, in the requests for them and in the log.
-/

namespace SalesDesk

open Quota

/-! ## Words -/

/-- Two actions are one, or both are answers in words. -/
def Action.Alike : Action → Action → Prop
  | .respondText _, .respondText _ => True
  | a, b => a = b

theorem Action.Alike.refl (a : Action) : a.Alike a := by
  cases a with
  | respondText text => trivial
  | _ => rfl

theorem Action.Alike.cases {a b : Action} (h : a.Alike b) :
    (∃ first second, a = .respondText first ∧ b = .respondText second) ∨ a = b := by
  cases a with
  | respondText first =>
    cases b with
    | respondText second => exact Or.inl ⟨first, second, rfl, rfl⟩
    | _ => exact Or.inr h
  | _ => exact Or.inr h

theorem Action.Alike.name_eq {action other : Action} (h : action.Alike other) :
    other.name = action.name := by
  rcases h.cases with ⟨text, otherText, rfl, rfl⟩ | rfl
  · rfl
  · rfl

/-- An action does not answer in words that are no text. -/
def Action.InText (a : Action) : Prop := ∀ words, a = .respondText words → words.text?.isSome = true

theorem Action.InText.of_outbound {a : Action} (h : a.InText) :
    ∀ words ∈ a.outbound, words.text?.isSome = true := by
  cases a with
  | respondText words => simpa [InText, outbound] using h
  | _ => simp [outbound, Words.text?]

theorem Action.InText.of_details {a : Action} (h : a.InText) :
    ∀ words ∈ a.details, words.text?.isSome = true := by
  cases a with
  | respondText words => simpa [InText, details] using h
  | _ => simp [details, Words.text?]

/-- The words of an outcome are texts. -/
structure Generation.Outcome.InText (o : Generation.Outcome) : Prop where
  text : o.text.text?.isSome = true
  response : ∀ words ∈ o.rawResponse, words.text?.isSome = true

namespace Audit

/-- An entry without what a generator may have said. -/
def Entry.wordless (e : Entry) : Entry := { e with details := none, response := none, sent := none }

def Record.wordless (r : Record) : Record := { r with toEntry := r.toEntry.wordless }

def Row.wordless (r : Row) : Row := { r with details := none, response := none, sent := none }

def Store.wordless : Store → Store
  | .memory records => .memory (records.map Record.wordless)
  | .table rows => .table (rows.map Row.wordless)

/-- Whether a table refuses a record whose words are texts does not depend on the words. -/
theorem Record.refusal?_wordless {r : Record} (h : r.toEntry.Textual) :
    r.wordless.refusal? = none ↔ r.refusal? = none := by
  have hwordless : r.wordless.toEntry.Textual := ⟨nofun, nofun, nofun⟩
  rw [refusal?_eq_none_iff, refusal?_eq_none_iff, and_iff_left h, and_iff_left hwordless]
  rfl

theorem Store.append_wordless (s : Store) {r : Record} (h : r.toEntry.Textual) :
    (s.append r).toOption.map wordless = (s.wordless.append r.wordless).toOption := by
  cases s with
  | memory records =>
    simp only [append, wordless, Except.toOption, Option.map_some, List.map_append, List.map_cons,
      List.map_nil]
  | table rows =>
    have htaken : ((rows.map Row.wordless).any fun row => row.id == r.wordless.id) =
        rows.any fun row => row.id == r.id := by
      rw [List.any_map]
      rfl
    have hrefusal := Record.refusal?_wordless h
    simp only [append, wordless, htaken]
    cases hfirst : r.refusal? with
    | some e =>
      cases hsecond : r.wordless.refusal? with
      | some f => rfl
      | none => cases hfirst.symm.trans (hrefusal.mp hsecond)
    | none =>
      rw [hrefusal.mpr hfirst]
      cases rows.any fun row => row.id == r.id with
      | true => rfl
      | false =>
        change some (wordless (table (rows ++ [Row.ofRecord r]))) = some (table _)
        simp only [wordless, List.map_append, List.map_cons, List.map_nil]
        rfl

end Audit

/-- Two records are both kept and differ in words at most, or both are lost. -/
def Result.Alike : Result Audit.Record → Result Audit.Record → Prop
  | .success r, .success s => s.wordless = r.wordless
  | .failure _ code, .failure _ otherCode => otherCode = code
  | _, _ => False

namespace Archive

/-- Whether a record is kept does not depend on its words, as long as they are texts. -/
theorem append_cases {archive : Archive} {audit : Audit.Store} {r s : Audit.Record}
    (haudit : audit.wordless = archive.audit.wordless) (hrecord : s.wordless = r.wordless)
    (htexts : r.toEntry.Textual) (hothers : s.toEntry.Textual) :
    (∃ kept otherKept, archive.append r = .ok { archive with audit := kept } ∧
      ({ archive with audit } : Archive).append s = .ok { archive with audit := otherKept } ∧
      otherKept.wordless = kept.wordless) ∨
    (∃ e f, archive.append r = .error e ∧
      ({ archive with audit } : Archive).append s = .error f) := by
  have hbroken : ({ archive with audit } : Archive).auditBroken = archive.auditBroken := by
    unfold auditBroken
    generalize archive.audit = other at haudit ⊢
    cases audit <;> cases other <;> first | rfl | cases haudit
  have hfirst := archive.audit.append_wordless htexts
  have hsecond := audit.append_wordless hothers
  rw [haudit, hrecord, ← hfirst] at hsecond
  rw [append_eq, append_eq, hbroken]
  cases archive.auditBroken with
  | some message => exact Or.inr ⟨_, _, rfl, rfl⟩
  | none =>
    cases hkept : archive.audit.append r with
    | ok kept =>
      cases hother : audit.append s with
      | ok otherKept =>
        rw [hkept, hother] at hsecond
        exact Or.inl ⟨kept, otherKept, rfl, rfl, Option.some.inj hsecond⟩
      | error f =>
        rw [hkept, hother] at hsecond
        cases hsecond
    | error e =>
      cases hother : audit.append s with
      | ok otherKept =>
        rw [hkept, hother] at hsecond
        cases hsecond
      | error f => exact Or.inr ⟨e, f, rfl, rfl⟩

end Archive

namespace Desk

open Generation

variable {d : Desk} {t : Timestamp} {errands : Errands} {r : Incoming}

/-- The desk with a generator whose service answers as given. -/
def writtenBy (d : Desk) (generator : Option Generator) (completions : SalesDesk.Answer) : Desk :=
  { d with generator, network := { d.network with completions } }

/-- Two desks that follow a first one have the same in memory and in the archive, up to words, and
have sent the same alerts after what they asked of their generators. -/
structure Rephrased (first : Desk) (asked otherAsked : List Post) (d e : Desk) : Prop where
  same : ∃ generator completions outbox audit, e = { d with
    generator, outbox
    network := { d.network with completions }
    archive := { d.archive with audit } }
  readable : ∃ t, d.clock.toUtc = .ok t
  audit : e.archive.audit.wordless = d.archive.audit.wordless
  settings : d.settings = first.settings
  earlier : d.earlier = first.earlier
  posts : ∃ alerts, d.outbox.posts = first.outbox.posts ++ asked ++ alerts ∧
    e.outbox.posts = first.outbox.posts ++ otherAsked ++ alerts ∧
    ∀ p ∈ alerts, ∃ text, first.settings.channel.post? text = some p

variable {first : Desk} {asked otherAsked : List Post}

theorem likeness_rephrased : Likeness (Rephrased first asked otherAsked) where
  clock := by
    rintro d _ ⟨⟨_, _, _, _, rfl⟩, -⟩
    rfl
  readable h := h.readable
  memory := by
    rintro d _ ⟨⟨_, _, _, _, rfl⟩, -⟩
    rfl
  remembering := by
    rintro d _ ⟨⟨generator, completions, outbox, audit, rfl⟩, hread, haudit, hset, hearlier, h⟩ m
    exact ⟨⟨generator, completions, outbox, audit, rfl⟩, hread, haudit, hset, hearlier, h⟩
  logged := by
    rintro d _ ⟨⟨generator, completions, outbox, audit, rfl⟩, hread, haudit, hset, hearlier, hposts⟩
      t notices others
    exact ⟨⟨generator, completions, _, audit, rfl⟩, hread, haudit, hset, hearlier, hposts⟩

/-! ## After the generation -/

theorem respects_send_alert {posts : List Post}
    (h : ∀ p ∈ posts, ∃ text, first.settings.channel.post? text = some p) :
    (send posts).Respects (Rephrased first asked otherAsked) := by
  rintro d _ ⟨⟨generator, completions, outbox, audit, rfl⟩, hread, haudit, hset, hearlier, alerts,
    hposts, hothers, halerts⟩
  refine ⟨rfl, ⟨generator, completions, _, audit, rfl⟩, hread, haudit, hset, hearlier,
    alerts ++ posts, ?_, ?_, ?_⟩
  · change d.outbox.posts ++ posts = _
    rw [hposts, List.append_assoc]
  · change outbox.posts ++ posts = _
    rw [show outbox.posts = _ from hothers, List.append_assoc]
  · intro p hp
    rcases List.mem_append.mp hp with hp | hp
    · exact halerts p hp
    · exact h p hp

theorem respects_raiseAlarm (reason : String) :
    (raiseAlarm r reason).Respects (Rephrased first asked otherAsked) := by
  apply Act.Parallel.bind (p := fun x y => x = y ∧
    ∀ p ∈ x.posts, ∃ text, first.settings.channel.post? text = some p)
  · apply Act.parallel_look
    rintro d _ ⟨⟨_, _, _, _, rfl⟩, -, -, hset, -⟩
    refine ⟨rfl, fun p hp => ?_⟩
    rw [Alert.posts_send] at hp
    rw [← hset]
    exact ⟨_, Option.mem_toList.mp hp⟩
  · rintro delivery _ ⟨rfl, hposts⟩
    apply (respects_send_alert hposts).bind
    intro _
    exact (likeness_rephrased.respects_notify _).bind fun _ => Act.respects_pure _

/-- An alert does not depend on what is said to the client. -/
theorem parallel_alert (trigger : Option Alert.Trigger) {action other : Action}
    (h : action.Alike other) : Act.Parallel (Rephrased first asked otherAsked) Eq
      (alert r trigger action) (alert r trigger other) := by
  have hsame (action : Action) :
      (alert r trigger action).Respects (Rephrased first asked otherAsked) := by
    rw [alert_eq]
    cases Alert.reason? trigger action with
    | none => exact Act.respects_pure false
    | some reason => exact respects_raiseAlarm reason
  rcases h.cases with ⟨text, otherText, rfl, rfl⟩ | rfl
  · cases trigger with
    | some trigger => exact hsame (.respondText text)
    | none => exact Act.respects_pure false
  · exact hsame action

theorem parallel_keepRecord {record other : Audit.Record} (h : other.wordless = record.wordless)
    (htexts : record.toEntry.Textual) (hothers : other.toEntry.Textual) :
    Act.Parallel (Rephrased first asked otherAsked) Result.Alike (keepRecord record)
      (keepRecord other) := by
  rintro d _ ⟨⟨generator, completions, outbox, audit, rfl⟩, ⟨t, hclock⟩, haudit, hset, hearlier,
    hposts⟩
  let e : Desk := { d with generator, outbox, network := { d.network with completions }
                           archive := { d.archive with audit } }
  have hother : e.clock.toUtc = .ok t := hclock
  rcases Archive.append_cases haudit h htexts hothers with
    ⟨kept, otherKept, hkept, hotherKept, hsame⟩ | ⟨lost, otherLost, hlost, hotherLost⟩
  · rw [run_keepRecord_ok hclock hkept, run_keepRecord_ok (d := e) hother hotherKept]
    exact ⟨h, ⟨generator, completions, _, otherKept, rfl⟩, ⟨t, hclock⟩, hsame, hset, hearlier,
      hposts⟩
  · rw [run_keepRecord_error hclock hlost, run_keepRecord_error (d := e) hother hotherLost]
    exact ⟨rfl, ⟨generator, completions, _, audit, rfl⟩, ⟨t, hclock⟩, haudit, hset, hearlier,
      hposts⟩

variable {state : Conversation.State} {before : Snapshot} {trigger : Option Alert.Trigger}
  {action other : Action}

variable {generated otherGenerated : Option (Outcome × Option Call)} {delay : Option Int}

/-- A cycle that answers in a text, if at all, to what was generated in a text. -/
structure InText (action : Action) (generated : Option (Outcome × Option Call)) : Prop where
  action : action.InText
  reply : ∀ g ∈ generated, g.1.InText

/-- Two generations answer one prompt, or none is made on either side. -/
def SamePrompt (generated otherGenerated : Option (Outcome × Option Call)) : Prop :=
  (otherGenerated.map fun g => g.1.prompt) = generated.map fun g => g.1.prompt

theorem SamePrompt.bind_eq (h : SamePrompt generated otherGenerated) :
    ((otherGenerated.map (·.1)).bind fun g => g.prompt) =
      (generated.map (·.1)).bind fun g => g.prompt := by
  unfold SamePrompt at h
  cases generated <;> cases otherGenerated <;> simp_all

/-- What two cycles are about to record: the same, up to texts. -/
structure Reworded (action other : Action)
    (generated otherGenerated : Option (Outcome × Option Call)) : Prop where
  alike : action.Alike other
  prompt : SamePrompt generated otherGenerated
  texts : InText action generated
  otherTexts : InText other otherGenerated

theorem InText.textual (h : InText action generated) {e : Audit.Entry}
    (hdetails : e.details = action.details) (hsent : e.sent = action.outbound)
    (hresponse : e.response = (generated.map (·.1)).bind fun g => g.rawResponse) : e.Textual where
  details := hdetails ▸ h.action.of_details
  sent := hsent ▸ h.action.of_outbound
  response := by
    rw [hresponse]
    cases generated with
    | none => exact nofun
    | some g => exact (h.reply g rfl).response

theorem parallel_recordCycle (h : Reworded action other generated otherGenerated) :
    Act.Parallel (Rephrased first asked otherAsked) Result.Alike
      (recordCycle r state before action (generated.map (·.1)))
      (recordCycle r state before other (otherGenerated.map (·.1))) := by
  have hR : Likeness (Rephrased first asked otherAsked) := likeness_rephrased
  unfold recordCycle
  apply Act.Parallel.bind (hR.respects_account r.tenant _)
  rintro after _ rfl
  apply Act.Parallel.bind hR.respects_now
  rintro time _ rfl
  apply Act.Parallel.bind (hR.parallel_makeRecord _ _ _)
  rintro record _ ⟨hentry, rfl⟩
  refine (parallel_keepRecord ?_ ?_ ?_).bind fun kept otherKept hkept => ?_
  · unfold Audit.Record.wordless Audit.Entry.wordless
    rw [hentry, h.prompt.bind_eq, h.alike.name_eq]
  · rw [hentry]
    exact h.texts.textual rfl rfl rfl
  · exact h.otherTexts.textual rfl rfl rfl
  · cases kept with
    | success record =>
      cases otherKept with
      | success otherRecord => exact Act.parallel_pure hkept
      | failure error code => exact hkept.elim
    | failure error code =>
      cases otherKept with
      | success otherRecord => exact hkept.elim
      | failure otherError otherCode =>
        exact (hR.parallel_notify _ _).bind fun _ _ _ => Act.parallel_pure hkept

/-- What two cycles have in common that differ in words only. -/
structure CycleOutcome.SameDecision (o other : CycleOutcome) : Prop where
  action : o.action.Alike other.action
  delay : other.delaySeconds = o.delaySeconds
  stateBefore : other.stateBefore = o.stateBefore
  stateAfter : other.stateAfter = o.stateAfter
  trigger : other.trigger = o.trigger
  alertSent : other.alertSent = o.alertSent
  audit : o.audit.Alike other.audit

theorem parallel_finish (h : Reworded action other generated otherGenerated) (sent : Bool) :
    Act.Parallel (Rephrased first asked otherAsked) CycleOutcome.SameDecision
      (finish r state before trigger generated action delay sent)
      (finish r state before trigger otherGenerated other delay sent) := by
  have hR : Likeness (Rephrased first asked otherAsked) := likeness_rephrased
  unfold finish
  refine (parallel_recordCycle h).bind fun audit otherAudit haudit => ?_
  apply Act.Parallel.bind (hR.respects_close r.conversation state _)
  rintro stateAfter _ rfl
  refine (hR.parallel_notify _ _).bind fun _ _ _ => ?_
  exact Act.parallel_pure ⟨h.alike, rfl, rfl, rfl, rfl, rfl, haudit⟩

theorem parallel_wrapUp (h : Reworded action other generated otherGenerated) :
    Act.Parallel (Rephrased first asked otherAsked) CycleOutcome.SameDecision
      (wrapUp r state before trigger generated (action, delay))
      (wrapUp r state before trigger otherGenerated (other, delay)) := by
  have hR : Likeness (Rephrased first asked otherAsked) := likeness_rephrased
  have hstop : other = .stopAutomation ↔ action = .stopAutomation := by
    rcases h.alike.cases with ⟨text, otherText, rfl, rfl⟩ | rfl
    · exact ⟨nofun, nofun⟩
    · exact Iff.rfl
  unfold wrapUp
  apply (parallel_alert trigger h.alike).bind
  rintro sent _ rfl
  by_cases hstopped : action = .stopAutomation
  · rw [if_pos hstopped, if_pos (hstop.mpr hstopped)]
    apply Act.Parallel.bind (hR.respects_stopAutomation r.conversation)
    intro _ _ _
    exact parallel_finish h sent
  · rw [if_neg hstopped, if_neg fun hother => hstopped (hstop.mp hother)]
    exact parallel_finish h sent

theorem parallel_settle {g otherG : Outcome} (h : g.InText) (hother : otherG.InText) :
    Act.Parallel (Rephrased first asked otherAsked)
      (fun settled otherSettled => settled.1.Alike otherSettled.1 ∧ settled.1.InText ∧
        otherSettled.1.InText ∧ otherSettled.2 = settled.2)
      (settle r g) (settle r otherG) := by
  have hR : Likeness (Rephrased first asked otherAsked) := likeness_rephrased
  have hreply {g : Outcome} (h : g.InText) : (Action.respondText g.text).InText := by
    rintro _ ⟨⟩
    exact h.text
  unfold settle
  apply Act.Parallel.bind (hR.respects_trySend r.tenant .message)
  rintro admission _ rfl
  cases admission.allowed with
  | true => exact Act.parallel_pure ⟨trivial, hreply h, hreply hother, rfl⟩
  | false =>
    exact (hR.parallel_notify _ _).bind fun _ _ _ =>
      Act.parallel_pure ⟨.refl _, nofun, nofun, rfl⟩

/-- From the generation on, two cycles take the same decision. -/
theorem parallel_conclude {choice : Action} (hprompt : SamePrompt generated otherGenerated)
    (htexts : ∀ g ∈ generated, g.1.InText) (hothers : ∀ g ∈ otherGenerated, g.1.InText)
    (hchoice : generated = none → choice.InText) :
    Act.Parallel (Rephrased first asked otherAsked) CycleOutcome.SameDecision
      (conclude r state before trigger choice generated)
      (conclude r state before trigger choice otherGenerated) := by
  cases generated with
  | none =>
    cases otherGenerated with
    | none =>
      exact parallel_wrapUp ⟨.refl choice, hprompt, ⟨hchoice rfl, htexts⟩, ⟨hchoice rfl, hothers⟩⟩
    | some otherGiven => cases hprompt
  | some given =>
    cases otherGenerated with
    | none => cases hprompt
    | some otherGiven =>
      rw [conclude_some, conclude_some]
      refine (parallel_settle (htexts given rfl) (hothers otherGiven rfl)).bind ?_
      rintro ⟨action, delay⟩ ⟨other, _⟩ ⟨halike, htext, hother, rfl⟩
      exact parallel_wrapUp ⟨halike, hprompt, ⟨htext, htexts⟩, ⟨hother, hothers⟩⟩

/-! ## Up to the generation -/

/-- Where no generator is asked, the fallback is for the prompt of the draft. -/
theorem fallback_of_start {guard : Guard} {draft : Draft} {c : Catalogue} {given : Option Generator}
    {o : Outcome} {notices : List Log.Notice}
    (h : draft.start guard c given = .error (o, notices)) : o.prompt = draft.prompt ∧ o.InText := by
  unfold Draft.start at h
  cases hbefore : guard.before c draft.product draft.action with
  | error reason =>
    simp only [hbefore] at h
    cases h
    exact ⟨rfl, rfl, nofun⟩
  | ok _ =>
    cases given with
    | none =>
      simp only [hbefore] at h
      cases h
      exact ⟨rfl, rfl, nofun⟩
    | some generator => simp [hbefore] at h

/-- What a text is judged to be is for the prompt of the draft, and in text. -/
theorem reply_of_judged {guard : Guard} {draft : Draft} {o : Outcome}
    {completion : Except CompletionError Completion} (h : Judged guard draft completion o) :
    o.prompt = draft.prompt ∧ o.InText := by
  cases h with
  | sent => exact ⟨rfl, rfl, by rintro _ ⟨⟩; rfl⟩
  | rejected => exact ⟨rfl, rfl, by rintro _ ⟨⟩; rfl⟩
  | slow => exact ⟨rfl, rfl, nofun⟩
  | failed => exact ⟨rfl, rfl, nofun⟩

/-- A request to the service that a generator is. -/
def Addresses (generator : Option Generator) (p : Post) : Prop :=
  ∃ s request, generator = some (.service s) ∧ p = s.post request

/-- Where errands are idle, asking a generator posts the requests to it and does nothing else. -/
theorem Asked.exists_posted {generator : Generator} {call : Call} {kept : Option Call}
    {completion : Except CompletionError Completion} {later : Desk}
    (h : Asked errands d call generator completion kept later) (hidle : errands.Idle)
    (hgenerator : d.generator = some generator) :
    ∃ asked, later = d.posted asked ∧ ∀ p ∈ asked, Addresses d.generator p := by
  cases h with
  | service s request =>
    refine ⟨_, rfl, fun p hp => ?_⟩
    exact ⟨s, request, hgenerator, List.mem_singleton.mp hp⟩
  | rehearsed behaviour list =>
    have hunasked : d.posted [] = d := by simp [posted]
    exact ⟨[], by rw [hidle, hunasked], by simp⟩

/-- Where errands are idle, a generation asks and logs and does nothing else. -/
theorem run_generate_idle (hclock : d.clock.toUtc = .ok t) (hidle : errands.Idle)
    (htext : ∀ g, d.generator = some g → g.AnswersText d.network) (guard : Guard) (draft : Draft) :
    ∃ o call asked records, (generate errands guard draft).run d =
        (.ok (o, call), (d.posted asked).withLog records) ∧
      (o.prompt = draft.prompt ∧ o.InText) ∧ ∀ p ∈ asked, Addresses d.generator p := by
  have hlook := Act.run_look (fun d => draft.start guard d.catalogue d.generator) d
  have hunasked : d.posted [] = d := by simp [posted]
  rw [generate_eq]
  cases hstart : draft.start guard d.catalogue d.generator with
  | error fallback =>
    rw [hstart] at hlook
    refine ⟨fallback.1, none, [], (d.logged t fallback.2).outbox.records, ?_,
      fallback_of_start hstart, by simp⟩
    rw [hunasked]
    exact (Act.run_bind_ok hlook).trans (Act.run_bind_ok (run_notify hclock fallback.2))
  | ok started =>
    obtain ⟨generator, call⟩ := started
    rw [hstart] at hlook
    have hgenerator := Draft.generator_of_start hstart
    obtain ⟨completion, later, records, hask, hasked⟩ := exists_asked hclock errands generator call
    obtain ⟨asked, rfl, haddressed⟩ := hasked.exists_posted hidle hgenerator
    obtain ⟨o, notices, hfinish, hjudged⟩ :=
      draft.judged_finish guard generationMs (hasked.isText (htext generator hgenerator))
    have hjudge : (judge guard draft generator call completion).run
        ((d.posted asked).withLog records) = _ := run_judge hclock
    rw [hfinish] at hjudge
    exact ⟨o, _, asked, _, (Act.run_bind_ok hlook).trans ((Act.run_bind_ok hask).trans hjudge),
      reply_of_judged hjudged, haddressed⟩

theorem opened_writtenBy (g : Option Generator) (completions : SalesDesk.Answer) :
    (d.writtenBy g completions).opened r = (d.opened r).writtenBy g completions := by
  cases ha : d.ledger.account r.tenant d.clock.toUtc with
  | ok a =>
    have hother := opened_of_account (d := d.writtenBy g completions) ha
    rw [hother, opened_of_account ha]
    rfl
  | error e =>
    have hother := opened_of_account_error (d := d.writtenBy g completions) ha
    rw [hother, opened_of_account_error ha]
    rfl

/-- A cycle at a clock that cannot be read ends before anything is generated. -/
theorem run_cycle_unread {e : TimeError} (hclock : d.clock.toUtc = .error e) (errands : Errands)
    (r : Incoming) : ∃ after : Desk, after.outbox = d.outbox ∧ ∀ g completions,
      (cycle errands r).run (d.writtenBy g completions) =
        (.error (.time e), after.writtenBy g completions) := by
  have houtbox : (d.opened r).outbox = d.outbox := by
    cases ha : d.ledger.account r.tenant d.clock.toUtc with
    | ok a => rw [opened_of_account ha]; rfl
    | error fault => rw [opened_of_account_error ha]
  refine ⟨d.opened r, houtbox, fun g completions => ?_⟩
  rw [← opened_writtenBy]
  exact run_cycle_of_unread (d := d.writtenBy g completions) hclock errands r

/-- What is on two desks whatever was written on each, up to words. -/
structure SameButWords (d e : Desk) : Prop where
  ledger : e.ledger = d.ledger
  registry : e.registry = d.registry
  draws : e.draws = d.draws
  lastId : e.lastId = d.lastId
  usages : e.archive.usages = d.archive.usages
  conversations : e.archive.conversations = d.archive.conversations
  audit : e.archive.audit.wordless = d.archive.audit.wordless

theorem sameButWords_writtenBy (d : Desk) (g otherG : Option Generator)
    (completions otherCompletions : SalesDesk.Answer) :
    (d.writtenBy g completions).SameButWords (d.writtenBy otherG otherCompletions) :=
  ⟨rfl, rfl, rfl, rfl, rfl, rfl, rfl⟩

theorem Rephrased.sameButWords {e : Desk} (h : Rephrased first asked otherAsked d e) :
    d.SameButWords e := by
  obtain ⟨⟨_, _, _, _, rfl⟩, -, haudit, -⟩ := h
  exact ⟨rfl, rfl, rfl, rfl, rfl, rfl, haudit⟩

variable {g otherG : Option Generator} {completions otherCompletions : SalesDesk.Answer}

/-- The desks on which two cycles go on once each has written what it writes. -/
theorem rephrased_opened (hclock : d.clock.toUtc = .ok t) (asked otherAsked : List Post)
    (records otherRecords : List Log.Record) :
    Rephrased d asked otherAsked
      ((((d.opened r).writtenBy g completions).posted asked).withLog records)
      ((((d.opened r).writtenBy otherG otherCompletions).posted otherAsked).withLog
        otherRecords) := by
  obtain ⟨a, -, hopened⟩ := exists_opened_eq hclock r
  rw [hopened]
  exact ⟨⟨otherG, otherCompletions, _, _, rfl⟩, ⟨t, hclock⟩, rfl, rfl, rfl, [],
    (List.append_nil _).symm, (List.append_nil _).symm, by simp⟩

/-- The desks on which two cycles go on that have nothing written. -/
theorem rephrased_unasked (hclock : d.clock.toUtc = .ok t) :
    Rephrased d [] [] ((d.opened r).writtenBy g completions)
      ((d.opened r).writtenBy otherG otherCompletions) := by
  have hrelated : Rephrased d [] []
      ((((d.opened r).writtenBy g completions).posted []).withLog (d.opened r).outbox.records)
      ((((d.opened r).writtenBy otherG otherCompletions).posted []).withLog
        (d.opened r).outbox.records) :=
    rephrased_opened hclock [] [] _ _
  simp only [posted, withLog, List.append_nil] at hrelated
  exact hrelated

/-! ## The whole cycle -/

theorem exists_written_idle (hclock : d.clock.toUtc = .ok t) (hidle : errands.Idle)
    (htext : ∀ x, g = some x → x.AnswersText { d.network with completions }) (text : Words) :
    ∃ o call asked records, (write errands r (.respondText text)).run
        ((d.opened r).writtenBy g completions) =
      (.ok (o, call), (((d.opened r).writtenBy g completions).posted asked).withLog records) ∧
      (o.prompt = r.promptText ∧ o.InText) ∧ ∀ p ∈ asked, Addresses g p := by
  obtain ⟨a, -, hopened⟩ := exists_opened_eq hclock r
  let entered : Desk := { d with registry := d.registry.touch r.conversation }
  rw [hopened]
  exact run_generate_idle (d := (entered.withAccount r.tenant a).writtenBy g completions) hclock
    hidle htext d.settings.guard
    { product := r.product, action := (Action.respondText text).name, prompt := r.promptText
      timeout := d.settings.generationTimeout }

/-- Acts that go on in the process in which they began. -/
theorem onProcess_rephrased {α : Type} {p : α → α → Prop} {act other : Act α} {e : Desk}
    (h : Act.Parallel (Rephrased first asked otherAsked) p act other)
    (hrelated : Rephrased first asked otherAsked d e) :
    Act.Matched p ((onProcess first.number act).run d).1 ((onProcess first.number other).run e).1 ∧
      Rephrased first asked otherAsked ((onProcess first.number act).run d).2
        ((onProcess first.number other).run e).2 := by
  have hnumber : first.number = d.number := congrArg List.length hrelated.earlier.symm
  have hother : d.number = e.number := by
    obtain ⟨⟨_, _, _, _, rfl⟩, -⟩ := hrelated
    rfl
  rw [hnumber, run_onProcess_newest, hother, run_onProcess_newest]
  exact h d e hrelated

private theorem proceed_rephrased (hclock : d.clock.toUtc = .ok t) (hidle : errands.Idle)
    (htext : ∀ x, g = some x → x.AnswersText { d.network with completions })
    (hother : ∀ x, otherG = some x →
      x.AnswersText { d.network with completions := otherCompletions })
    (state : Conversation.State) (before : Snapshot) (trigger : Option Alert.Trigger)
    (choice : Action) :
    ∃ asked otherAsked, (∀ p ∈ asked, Addresses g p) ∧ (∀ p ∈ otherAsked, Addresses otherG p) ∧
      Act.Matched CycleOutcome.SameDecision
        ((proceed errands r d.number state before trigger choice).run
          ((d.opened r).writtenBy g completions)).1
        ((proceed errands r d.number state before trigger choice).run
          ((d.opened r).writtenBy otherG otherCompletions)).1 ∧
      Rephrased d asked otherAsked
        ((proceed errands r d.number state before trigger choice).run
          ((d.opened r).writtenBy g completions)).2
        ((proceed errands r d.number state before trigger choice).run
          ((d.opened r).writtenBy otherG otherCompletions)).2 := by
  by_cases hspeaks : ∃ text, choice = .respondText text
  · obtain ⟨text, rfl⟩ := hspeaks
    obtain ⟨o, call, asked, records, hwrite, ⟨hprompt, htexts⟩, hasked⟩ :=
      exists_written_idle (r := r) hclock hidle htext text
    obtain ⟨otherO, otherCall, otherAsked, otherRecords, hotherWrite, ⟨hotherPrompt, hothers⟩,
      hotherAsked⟩ := exists_written_idle (r := r) hclock hidle hother text
    refine ⟨asked, otherAsked, hasked, hotherAsked, ?_⟩
    rw [run_proceed_respondText _ _ _ _ _ hwrite, run_proceed_respondText _ _ _ _ _ hotherWrite]
    refine onProcess_rephrased (parallel_conclude ?_ ?_ ?_ nofun) (rephrased_opened hclock _ _ _ _)
    · exact congrArg some (hotherPrompt.trans hprompt.symm)
    · rintro _ ⟨⟩
      exact htexts
    · rintro _ ⟨⟩
      exact hothers
  · have hproceed : proceed errands r d.number state before trigger choice =
        onProcess d.number (conclude r state before trigger choice none) := by
      cases choice with
      | respondText text => exact absurd ⟨text, rfl⟩ hspeaks
      | _ => rfl
    refine ⟨[], [], by simp, by simp, ?_⟩
    rw [hproceed]
    refine onProcess_rephrased (parallel_conclude ?_ ?_ ?_ ?_) (rephrased_unasked hclock)
    · rfl
    · simp
    · simp
    · exact fun _ text htext => absurd ⟨text, htext⟩ hspeaks

private theorem run_cycle_writtenBy (hclock : d.clock.toUtc = .ok t) (g : Option Generator)
    (completions : SalesDesk.Answer) : (cycle errands r).run (d.writtenBy g completions) =
      (Act.ofExcept .hours (d.settings.isOpen t) >>= fun inside =>
        proceed errands r d.number (d.registry.status r.conversation).state
          (d.ledger.counters r.tenant) (d.trigger r)
          (choose (d.registry.status r.conversation) (d.situation r inside))).run
        ((d.opened r).writtenBy g completions) := by
  rw [← opened_writtenBy]
  exact run_cycle (d := d.writtenBy g completions) hclock

private theorem cycle_rephrased (hclock : d.clock.toUtc = .ok t) (hidle : errands.Idle)
    (htext : ∀ x, g = some x → x.AnswersText { d.network with completions })
    (hother : ∀ x, otherG = some x →
      x.AnswersText { d.network with completions := otherCompletions }) :
    ∃ asked otherAsked, (∀ p ∈ asked, Addresses g p) ∧ (∀ p ∈ otherAsked, Addresses otherG p) ∧
      Act.Matched CycleOutcome.SameDecision
        ((cycle errands r).run (d.writtenBy g completions)).1
        ((cycle errands r).run (d.writtenBy otherG otherCompletions)).1 ∧
      Rephrased d asked otherAsked
        ((cycle errands r).run (d.writtenBy g completions)).2
        ((cycle errands r).run (d.writtenBy otherG otherCompletions)).2 := by
  rw [run_cycle_writtenBy hclock, run_cycle_writtenBy hclock]
  cases d.settings.isOpen t with
  | error e =>
    have hfault {α : Type} (next : Bool → Act α) (x : Desk) :
        (Act.ofExcept .hours (.error e) >>= next).run x = (.error (.hours e), x) :=
      Act.run_bind_error (Act.run_ofExcept_error ..)
    rw [hfault, hfault]
    exact ⟨[], [], by simp, by simp, rfl, rephrased_unasked hclock⟩
  | ok inside =>
    rw [Act.run_bind_ok (Act.run_ofExcept_ok ..), Act.run_bind_ok (Act.run_ofExcept_ok ..)]
    exact proceed_rephrased hclock hidle htext hother _ _ _ _

/-- On one desk and for one message, the cycles of two generators take the same decision and leave
the same behind, up to words. Both send the same alerts after what they ask of their generators. -/
theorem cycle_sameDecision (d : Desk) (r : Incoming) (hidle : errands.Idle)
    (htext : ∀ x, g = some x → x.AnswersText { d.network with completions })
    (hother : ∀ x, otherG = some x →
      x.AnswersText { d.network with completions := otherCompletions }) :
    let run := (cycle errands r).run (d.writtenBy g completions)
    let other := (cycle errands r).run (d.writtenBy otherG otherCompletions)
    Act.Matched CycleOutcome.SameDecision run.1 other.1 ∧ run.2.SameButWords other.2 ∧
    ∃ asked otherAsked alerts,
      run.2.outbox.posts = d.outbox.posts ++ asked ++ alerts ∧
      other.2.outbox.posts = d.outbox.posts ++ otherAsked ++ alerts ∧
      (∀ p ∈ alerts, ∃ text, d.settings.channel.post? text = some p) ∧
      (∀ p ∈ asked, Addresses g p) ∧ ∀ p ∈ otherAsked, Addresses otherG p := by
  intro run other
  cases hclock : d.clock.toUtc with
  | error e =>
    obtain ⟨after, houtbox, hrun⟩ := run_cycle_unread hclock errands r
    have hfirst : run = _ := hrun g completions
    have hsecond : other = _ := hrun otherG otherCompletions
    have hposts : after.outbox.posts = d.outbox.posts ++ [] ++ [] := by simp [houtbox]
    rw [hfirst, hsecond]
    exact ⟨rfl, sameButWords_writtenBy after _ _ _ _, [], [], [], hposts, hposts, by simp, by simp,
      by simp⟩
  | ok t =>
    obtain ⟨asked, otherAsked, hasked, hotherAsked, hmatched, hrelated⟩ :=
      cycle_rephrased (r := r) hclock hidle htext hother
    obtain ⟨alerts, hposts, hothers, halerts⟩ := hrelated.posts
    exact ⟨hmatched, hrelated.sameButWords, asked, otherAsked, alerts, hposts, hothers, halerts,
      hasked, hotherAsked⟩

/-- A generator that recommends a soap and none at all: both times the client is answered, and a
message of the tenant is counted. -/
theorem cycle_sameDecision_soap :
    let noon : Timestamp := ⟨738000 * Timestamp.day + 43200 * Timestamp.second, some 0⟩
    let d : Desk := { Desk.new {} none default noon with
      catalogue := Catalogue.load [{ id := "soap", name := "Savon" }] }
    let generator : Generator := .rehearsed (.reply (.str "Il sent bon") (.str "stub"))
    let r : Incoming := { tenant := "shop", conversation := "chat", message := some "Bonjour"
                          product := some "soap" }
    let run := (cycle (fun _ d => (none, d)) r).run (d.writtenBy (some generator) default)
    let other := (cycle (fun _ d => (none, d)) r).run (d.writtenBy none default)
    Act.Matched CycleOutcome.SameDecision run.1 other.1 ∧ run.2.SameButWords other.2 ∧
    run.1.toOption.map (·.action.outbound) = some (some (.text "Il sent bon")) ∧
    other.1.toOption.map (·.action.outbound) = some (some (.text defaultFallback)) ∧
    (other.2.ledger.counters "shop").messagesToday = 1 := by
  intro noon d generator r run other
  have hfirst : run.1.toOption.map (·.action.outbound) = some (some (.text "Il sent bon")) := by
    decide +kernel
  have hsecond : other.1.toOption.map (·.action.outbound) = some (some (.text defaultFallback)) := by
    decide +kernel
  have hcounted : (other.2.ledger.counters "shop").messagesToday = 1 := by decide +kernel
  have htext : ∀ x, some generator = some x →
      x.AnswersText { d.network with completions := default } := by
    intro x hx
    cases hx
    intro c hc
    cases hc
    exact ⟨_, rfl⟩
  have hnone : ∀ x, (none : Option Generator) = some x →
      x.AnswersText { d.network with completions := default } := by
    intro x hx
    cases hx
  have hidle : Errands.Idle fun _ d => (none, d) := fun _ _ => rfl
  obtain ⟨hmatched, hsame, -⟩ := cycle_sameDecision d r hidle htext hnone
  exact ⟨hmatched, hsame, hfirst, hsecond, hcounted⟩

end Desk

end SalesDesk
