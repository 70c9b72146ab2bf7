import SalesDesk.Proofs.Desk.Guarded
import SalesDesk.Proofs.Desk.Trace

/-!
# Requests that fail

A request that fails leaves everything as it was, but for the log, the drawn numbers, the numbers of
audit records, and the names that were asked about. There is one exception: the answer about a cycle
is put together when the cycle is over and saved, so where its words turn out to be no text, the
request fails although a message was counted. This takes a generator that does not answer text and a
guard that has no term to look for.
-/

namespace SalesDesk

open Quota Generation

namespace Generation

variable {draft : Draft} {guard : Guard} {completion : Except CompletionError Completion}
  {o : Outcome} {notices : List Log.Notice}

theorem Outcome.Guarded.text?_ne_none (h : o.Guarded guard) : o.text.text? ≠ none := by
  rcases h with ⟨text, htext, -⟩ | htext
  · simp [htext, Words.text?]
  · simp [htext, Words.text?]

/-- Words that are no text come from a completion that is none, past a guard that forbids nothing. -/
theorem Draft.completion_of_finish {elapsed : Binary64}
    (h : draft.finish guard elapsed completion = (.ok o, notices)) (hnone : o.text.text? = none) :
    ¬ IsText completion ∧ ∀ term ∈ guard.forbidden, term = "" := by
  have hunsettled : ¬ ∀ c, completion = .ok c → guard.Settles c.content := by
    intro hsettled
    obtain ⟨settled, _, hfinish, hguarded⟩ := draft.guarded_finish elapsed hsettled
    rw [h] at hfinish
    cases hfinish
    exact hguarded.text?_ne_none hnone
  simp only [not_forall] at hunsettled
  obtain ⟨c, rfl, hc⟩ := hunsettled
  refine ⟨fun htext => hc (Guard.settles_of_isText htext), ?_⟩
  by_contra hterm
  simp only [not_forall] at hterm
  obtain ⟨term, hmem, hne⟩ := hterm
  rcases not_and_or.mp hc with hscalar | hparts
  · rw [draft.finish_of_isScalar elapsed (not_not.mp hscalar)] at h
    cases h
  · rw [draft.finish_of_parts elapsed (not_not.mp hparts) ⟨term, hmem, hne⟩] at h
    cases h

end Generation

namespace Desk

variable {d later after : Desk} {t : Timestamp} {r : Incoming}
  {guard : Guard} {draft : Draft} {g : Outcome}

/-! ## How a cycle ends -/

theorem fault_of_trySend {tenant : String} {x : Send} {e : Fault} (hclock : d.clock.toUtc = .ok t)
    (hrun : (trySend tenant x).run d = (.error e, after)) : ∃ q, e = .quota q := by
  obtain ⟨a, ha⟩ := exists_account hclock tenant
  cases hcan : x.can a with
  | false =>
    rw [run_trySend_refused ha hcan hclock] at hrun
    cases hrun
  | true =>
    cases hpause : a.delay d.base with
    | ok pause =>
      rw [run_trySend_admitted ha hcan hpause] at hrun
      cases hrun
    | error fault =>
      rw [run_trySend_noPause ha hcan hpause] at hrun
      cases hrun
      exact ⟨fault, rfl⟩

/-- A generation ends in a fault about a content, or in an outcome. -/
theorem generate_cases {result : Except Fault (Outcome × Option Generation.Call)}
    (hclock : d.clock.toUtc = .ok t) (hrun : (generate quiet guard draft).run d = (result, later)) :
    (∃ content, result = .error (.notText content)) ∨
    ∃ g call, result = .ok (g, call) ∧ (g.text.text? = none →
      (∀ term ∈ guard.forbidden, term = "") ∧
        ∃ generator, d.generator = some generator ∧ ¬ generator.AnswersText d.network) := by
  have hlook := Act.run_look (fun d => draft.start guard d.catalogue d.generator) d
  rw [generate_eq, Act.run_bind_ok hlook] at hrun
  cases hstart : draft.start guard d.catalogue d.generator with
  | error fallback =>
    simp only [hstart, Act.run_bind_ok (run_notify hclock _)] at hrun
    cases hrun
    exact Or.inr ⟨_, _, rfl, fun hnone => absurd hnone (Draft.guarded_start hstart).text?_ne_none⟩
  | ok started =>
    obtain ⟨generator, asked⟩ := started
    have hgiven := Draft.generator_of_start hstart
    obtain ⟨completion, last, hask⟩ := exists_ask hclock quiet generator asked
    have hsteady := frame_steady.leads_ask generator asked d
    rw [hask] at hsteady
    have hback : d.comesBack quiet guard draft = some completion := by
      simp [comesBack, hstart, hask, Except.toOption]
    simp only [hstart, Act.run_bind_ok hask,
      run_judge (hsteady.clock.symm ▸ hclock : last.clock.toUtc = .ok t)] at hrun
    rcases hfinish : draft.finish guard generationMs completion with ⟨e | finished, notices⟩
    · simp only [hfinish, Except.map, Except.mapError] at hrun
      cases hrun
      exact Or.inl ⟨_, rfl⟩
    · simp only [hfinish, Except.map, Except.mapError] at hrun
      cases hrun
      refine Or.inr ⟨_, _, rfl, fun hnone => ?_⟩
      obtain ⟨htext, hterms⟩ := Draft.completion_of_finish hfinish hnone
      refine ⟨hterms, generator, hgiven, fun hanswers => htext ?_⟩
      refine isText_of_comesBack hclock (fun other hother => ?_) hback
      cases hgiven.symm.trans hother
      exact hanswers

/-- A reply is admitted and counted, or it is put off, or its pause cannot be told. -/
theorem settle_cases {result : Except Fault (Action × Option Int)}
    (hclock : d.clock.toUtc = .ok t) (hrun : (settle r g).run d = (result, later)) :
    (∃ q, result = .error (.quota q)) ∨
    ∃ settled, result = .ok settled ∧ ((settled.1 = .respondText g.text ∧
        later.ledger.counters r.tenant = (d.ledger.counters r.tenant).withMessage) ∨
      settled.1.outbound = none) := by
  have hsettle : settle r g = trySend r.tenant .message >>= fun admission =>
      if admission.allowed then pure (.respondText g.text, admission.delaySeconds)
      else notify [r.notice .info "Quota exhausted between decision and send"
        (usageContext admission.before)] >>= fun _ => pure (.delay exhaustedDelaySeconds, none) :=
    rfl
  rw [hsettle] at hrun
  rcases frame_untouched.trySend_cases d r.tenant .message with
    ⟨a, pause, ha, -, hadmitted⟩ | ⟨admitted, last, hrefused, hallowed, huntouched⟩
  · rw [Act.run_bind_ok hadmitted] at hrun
    cases hrun
    refine Or.inr ⟨_, rfl, Or.inl ⟨rfl, ?_⟩⟩
    rw [counters_withAccount, Ledger.counters_of_account ha]
    rfl
  · cases admitted with
    | error e =>
      obtain ⟨q, rfl⟩ := fault_of_trySend hclock hrefused
      rw [Act.run_bind_error hrefused] at hrun
      cases hrun
      exact Or.inl ⟨q, rfl⟩
    | ok admission =>
      rw [Act.run_bind_ok hrefused, if_neg (by simp [hallowed admission rfl]),
        Act.run_bind_ok (run_notify (huntouched.steady.clock.symm ▸ hclock) _)] at hrun
      cases hrun
      exact Or.inr ⟨_, rfl, Or.inr rfl⟩

/-- A cycle that has something generated ends in a fault about a pause, or with a reply, which is
counted, or with nothing sent. -/
theorem conclude_cases {state : Conversation.State} {before : Snapshot}
    {trigger : Option Alert.Trigger} {call : Option Generation.Call}
    {result : Except Fault CycleOutcome} (hclock : d.clock.toUtc = .ok t)
    (hrun : (settle r g >>= wrapUp r state before trigger (some (g, call))).run d =
      (result, after)) :
    (∃ q, result = .error (.quota q)) ∨
    ∃ o : CycleOutcome, result = .ok o ∧ ((o.action = .respondText g.text ∧
        after.ledger.counters r.tenant = (d.ledger.counters r.tenant).withMessage) ∨
      o.action.outbound = none) := by
  rcases hsettle : (settle r g).run d with ⟨settling, counted⟩
  obtain ⟨q, rfl⟩ | ⟨settled, rfl, hsettled⟩ := settle_cases hclock hsettle
  · rw [Act.run_bind_error hsettle] at hrun
    cases hrun
    exact Or.inl ⟨q, rfl⟩
  · rw [Act.run_bind_ok hsettle] at hrun
    have hsteady := frame_steady.leads_settle (Frame.allows_steady r) g d
    rw [hsettle] at hsteady
    have hyields : (wrapUp r state before trigger (some (g, call))
        (settled.1, settled.2)).Yields counted _ :=
      yields_wrapUp rfl (hsteady.clock.symm ▸ hclock)
    obtain ⟨o, _, hwrap, hout, hclosed⟩ := hyields
    cases hrun.symm.trans hwrap
    have hcounters : after.ledger.counters = counted.ledger.counters := hclosed.counters
    obtain ⟨haction, hcounted⟩ | hsilent := hsettled
    · refine Or.inr ⟨o, rfl, Or.inl ⟨hout.action.trans haction, ?_⟩⟩
      rw [hcounters, hcounted]
    · exact Or.inr ⟨o, rfl, Or.inr (hout.action ▸ hsilent)⟩

/-- How a cycle ends with nothing else going on: with a fault that is not about an answer, with a
reply, which is counted, or with nothing sent. -/
theorem cycle_cases {result : Except Fault CycleOutcome} (hclock : d.clock.toUtc = .ok t)
    (hrun : (cycle quiet r).run d = (result, after)) :
    (∃ e, result = .error e ∧ ∀ issues, e ≠ .unfit issues) ∨
    (∃ (o : CycleOutcome) (g : Outcome), result = .ok o ∧ o.action = .respondText g.text ∧
      after.ledger.counters r.tenant = (d.ledger.counters r.tenant).withMessage ∧
      (g.text.text? = none → (∀ term ∈ d.settings.guard.forbidden, term = "") ∧
        ∃ generator, d.generator = some generator ∧ ¬ generator.AnswersText d.network)) ∨
    ∃ o : CycleOutcome, result = .ok o ∧ o.action.outbound = none := by
  have hcycle := hrun
  rw [run_cycle_quiet hclock] at hrun
  cases hhours : d.settings.isOpen t with
  | error e =>
    rw [hhours, Act.run_bind_error (Act.run_ofExcept_error ..)] at hrun
    cases hrun
    exact Or.inl ⟨_, rfl, nofun⟩
  | ok inside =>
    obtain ⟨-, hfirst⟩ | ⟨hmay, -⟩ := choose_cases (r := r) hhours
    · rw [hhours, Act.run_bind_ok (Act.run_ofExcept_ok ..), pursue, hfirst] at hrun
      have hopened := frame_untouched.opened d r
      have hwritten := frame_untouched.leads_write r (.respondText "") (d.opened r)
      rcases hwrite : (write quiet r (.respondText "")).run (d.opened r) with ⟨written, last⟩
      have hwriteFor : (writeFor r (.respondText "")).run (d.opened r) =
          (written.map some, last) := by
        simp [writeFor, hwrite, Except.map]
      rw [hwrite] at hwritten
      have huntouched : d.Untouched last := frame_untouched.trans (m := 0) (n := 0) hopened hwritten
      obtain ⟨content, rfl⟩ | ⟨g, call, rfl, hnone⟩ :=
        generate_cases (hopened.steady.clock.symm ▸ hclock) hwrite
      · rw [Act.run_bind_error hwriteFor] at hrun
        cases hrun
        exact Or.inl ⟨_, rfl, nofun⟩
      · rw [Act.run_bind_ok hwriteFor, conclude_some] at hrun
        have hread : last.clock.toUtc = .ok t := huntouched.steady.clock.symm ▸ hclock
        obtain ⟨q, rfl⟩ | ⟨o, rfl, ⟨haction, hcounted⟩ | hsilent⟩ := conclude_cases hread hrun
        · exact Or.inl ⟨_, rfl, nofun⟩
        · obtain ⟨a, ha⟩ := exists_account hclock r.tenant
          rw [opened_of_account ha] at hnone
          rw [huntouched.counters] at hcounted
          exact Or.inr (Or.inl ⟨o, g, rfl, haction, hcounted, hnone⟩)
        · exact Or.inr (Or.inr ⟨o, rfl, hsilent⟩)
    · obtain ⟨o, _, hsilent⟩ := exists_silent (r := r) hclock hhours hmay
      cases hcycle.symm.trans (hsilent.unasked quiet)
      exact Or.inr (Or.inr ⟨o, rfl, hsilent.outbound⟩)

/-- A cycle without an outcome does not fail for an answer. -/
theorem fault_of_cycle {e : Fault} (hclock : d.clock.toUtc = .ok t)
    (hrun : (cycle quiet r).run d = (.error e, after)) (issues : List Validation.Issue) :
    e ≠ .unfit issues := by
  obtain ⟨e', ⟨⟩, he⟩ | ⟨_, _, ⟨⟩, -⟩ | ⟨_, ⟨⟩, -⟩ := cycle_cases hclock hrun
  exact he issues

end Desk

namespace Http

open Desk

variable {d : Desk} {t : Timestamp} {r : Request}

/-- A cycle has come to an outcome, but the answer about it cannot be put together. -/
def Request.Unanswered (r : Request) (d : Desk) : Prop :=
  ∃ form issues, Call.ofRequest r = .ok (.cycle form) ∧
    ((serve quiet r).run d).1 = .error (.unfit issues)

/-- Saving a cycle leaves the counters. -/
theorem counters_saveCycle (tenant conversation : String) (d : Desk) (g : Gauge) (other : String) :
    g.value (((saveCycle tenant conversation).run d).2.ledger.counters other) =
      g.value (d.ledger.counters other) :=
  have hframe := frame_leaves { usages := {tenant}, saved := {conversation} }
  (leads_saveCycle hframe (leaves_saveUsage (Set.mem_singleton _))
    (leaves_saveStatus (Set.mem_singleton _)) d).counter other g (Set.notMem_empty _)

/-- A cycle that is not answered has counted a message. -/
theorem counted_of_unanswered (hclock : d.clock.toUtc = .ok t) (h : r.Unanswered d) :
    (∃ tenant, (((serve quiet r).run d).2.ledger.counters tenant).messagesToday =
      (d.ledger.counters tenant).messagesToday + 1) ∧
    (∀ term ∈ d.settings.guard.forbidden, term = "") ∧
      ∃ g, d.generator = some g ∧ ¬ g.AnswersText d.network := by
  obtain ⟨form, issues, hcall, hunfit⟩ := h
  rw [run_serve_of_call hcall] at hunfit ⊢
  change ((answerCycle quiet form).run d).1 = _ at hunfit
  change (∃ tenant, (((answerCycle quiet form).run d).2.ledger.counters tenant).messagesToday = _) ∧
    _
  rcases answerCycle_eq form with hinvalid | ⟨event, hanswer⟩
  · rw [hinvalid] at hunfit
    cases hunfit
  rw [hanswer, run_runCycle] at hunfit ⊢
  rcases hcycle : (cycle quiet (incoming d form event)).run d with ⟨result, later⟩
  have hsteady := frame_steady.leads_cycle (Frame.allows_steady (incoming d form event)) d
  rw [hcycle] at hsteady
  obtain ⟨_, saved, hsave, -⟩ :=
    gives_saveCycle (tenantOf d form.tenant) form.conversation later t (hsteady.clock ▸ hclock)
  obtain ⟨e, rfl, he⟩ | ⟨o, g, rfl, haction, hcounted, hnone⟩ | ⟨o, rfl, hsilent⟩ :=
    cycle_cases hclock hcycle
  · rw [Act.run_bind_error hcycle] at hunfit
    cases hunfit
    exact absurd rfl (he issues)
  · rw [Act.run_bind_ok hcycle, Act.run_bind_ok hsave] at hunfit ⊢
    rcases tellCycle_cases o with ⟨-, htold⟩ | ⟨hunfitSaid, htold⟩
    · rw [htold] at hunfit
      cases hunfit
    · rw [htold]
      rw [Ne, unfitSaid_eq_nil_iff, haction] at hunfitSaid
      refine ⟨⟨tenantOf d form.tenant, ?_⟩, hnone ?_⟩
      · have hsaved := counters_saveCycle (tenantOf d form.tenant) form.conversation later
          .messagesToday (tenantOf d form.tenant)
        rw [hsave] at hsaved
        refine hsaved.trans ?_
        rw [show later.ledger.counters (tenantOf d form.tenant) = _ from hcounted]
        rfl
      · simpa [Action.outbound] using hunfitSaid
  · have hfit : unfitSaid o.action = [] := (unfitSaid_eq_nil_iff _).mpr (by simp [hsilent])
    rw [Act.run_bind_ok hcycle, Act.run_bind_ok hsave] at hunfit
    rcases tellCycle_cases o with ⟨-, htold⟩ | ⟨hunfitSaid, -⟩
    · rw [htold] at hunfit
      cases hunfit
    · exact absurd hfit hunfitSaid

/-- A request that fails leaves everything as it was, unless it is for a cycle that has an outcome and
no answer: that one is counted. For this the generator has to answer something else than text, and
there must be no term that the guard looks for. Half of a character is no part of a text here. -/
theorem untouched_iff_answered (hclock : d.clock.toUtc = .ok t)
    (_hwhole : Call.ofRequest r ≠ .error .halfCharacter) (hfails : r.Fails d) :
    (d.Untouched ((serve quiet r).run d).2 ↔ ¬ r.Unanswered d) ∧
    (r.Unanswered d → (∀ term ∈ d.settings.guard.forbidden, term = "") ∧
      ∃ g, d.generator = some g ∧ ¬ g.AnswersText d.network) := by
  refine ⟨⟨fun huntouched hunanswered => ?_, fun hanswered => ?_⟩,
    fun hunanswered => (counted_of_unanswered hclock hunanswered).2⟩
  · obtain ⟨⟨tenant, hcounted⟩, -⟩ := counted_of_unanswered hclock hunanswered
    rw [huntouched.counters] at hcounted
    omega
  · exact frame_untouched.after_serve hclock rfl hfails fun form issues hcall hresult =>
      hanswered ⟨form, issues, hcall, hresult⟩

/-- An entry that cannot be kept is answered with an error, and leaves the desk as it was. -/
theorem untouched_iff_answered_unkept :
    let noon : Timestamp := ⟨738000 * Timestamp.day + 43200 * Timestamp.second, some 0⟩
    let d : Desk := .new {} none { audit := .memory [], brokenMemory := some "disk full" } noon
    let entry : Request :=
      { method := "POST", target := "/api/v1/audit"
        content := some ("\x7b\"conversation_id\": \"chat\", \"incoming_message\": \"Bonjour\", " ++
          "\"state\": \"Discovery\", \"chosen_action\": \"no_reply\", " ++
          "\"quotas_before\": \x7b\x7d, \"quotas_after\": \x7b\x7d\x7d") }
    d.clock.toUtc = .ok noon ∧ Call.ofRequest entry ≠ .error .halfCharacter ∧ entry.Fails d ∧
      d.Untouched ((serve quiet entry).run d).2 := by
  intro noon d entry
  have hclock : d.clock.toUtc = .ok noon := rfl
  have hfails : entry.Fails d := by decide +kernel
  have hread : (Call.ofRequest entry).toOption.isSome = true := by decide +kernel
  have hwhole : Call.ofRequest entry ≠ .error .halfCharacter := by
    intro hhalf
    rw [hhalf] at hread
    cases hread
  have hanswered : ((serve quiet entry).run d).1.toOption.isSome = true := by decide +kernel
  refine ⟨hclock, hwhole, hfails, ?_⟩
  refine (untouched_iff_answered hclock hwhole hfails).1.mpr ?_
  rintro ⟨_, issues, -, hunfit⟩
  rw [hunfit] at hanswered
  cases hanswered

/-- With no term to look for, a list in the place of a text is sent and counted, and the request then
fails. -/
theorem counted_of_fails :
    let noon : Timestamp := ⟨738000 * Timestamp.day + 43200 * Timestamp.second, some 0⟩
    let d : Desk :=
      { Desk.new { forbiddenWords := [] } (some (.service { apiKey := "key" })) default noon with
        catalogue := Catalogue.load [{ id := "soap", name := "Savon" }]
        network := { completions := .status 200 (.obj [("choices", .arr [.obj [("message",
          .obj [("content", .arr [.str "x"])])]])]) } }
    let message : Request :=
      { method := "POST", target := "/api/v1/cycle"
        content := some ("\x7b\"conversation_id\": \"chat\", \"message\": \"Bonjour\", " ++
          "\"tenant_id\": \"shop\", \"product_id\": \"soap\"\x7d") }
    message.Fails d ∧ (d.ledger.counters "shop").messagesToday = 0 ∧
      (((serve quiet message).run d).2.ledger.counters "shop").messagesToday = 1 := by
  decide +kernel

end Http

end SalesDesk
