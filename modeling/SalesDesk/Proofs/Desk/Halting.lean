import SalesDesk.Proofs.Desk.Session

/-!
# Conversations that are left to humans

A cycle of a conversation in a terminal state, or of one whose automation is stopped, says nothing:
it asks no generator, counts no send, and posts nothing but alerts. What leaves a conversation to
humans is in memory and in its row once a cycle has kept it, and stays in both through every later
turn but an override.
-/

namespace SalesDesk

open Quota Desk

/-- A conversation that is left to humans gets no answer. -/
theorem Conversation.Status.Halted.not_maySpeak {d : Desk} {r : Incoming} {t : Timestamp}
    (h : (d.registry.status r.conversation).Halted) : ¬ d.MaySpeak r t := by
  intro hmay
  rcases h with hterminal | hstopped
  · have hopen := (isTerminal_eq_false_iff _).mpr ⟨hmay.notEscalated, hmay.notFrozen⟩
    simp [hopen] at hterminal
  · simp [hmay.running] at hstopped

namespace Desk

variable {d : Desk} {v : View} {t : Timestamp}

/-! ## Saving changes no view -/

theorem yields_save (hv : d.view = v) (hclock : v.clock.toUtc = .ok t)
    (write : Archive → Timestamp → Except WriteError Archive) (lost : WriteError → Log.Notice) :
    (save write lost).Yields d fun _ later => later.view = v := by
  subst hv
  rcases run_save hclock write lost with ⟨archive, -, hrun⟩ | ⟨e, hrun⟩
  · exact ⟨_, _, hrun, rfl⟩
  · exact ⟨_, _, hrun, rfl⟩

theorem yields_persistTenant (hv : d.view = v) (hclock : v.clock.toUtc = .ok t) (tenant : String) :
    (persistTenant tenant).Yields d fun _ later => later.view = v := by
  unfold persistTenant
  refine (yields_account hv hclock tenant _).bind fun usage later h => ?_
  rw [saveUsage_eq]
  exact (yields_save h.2 hclock _ _).bind fun _ _ hlast => Act.yields_pure hlast

theorem yields_persistConversation (hv : d.view = v) (hclock : v.clock.toUtc = .ok t)
    (tenant id : String) : (persistConversation tenant id).Yields d fun _ later => later.view = v := by
  unfold persistConversation
  refine (yields_status hv id).bind fun s later h => ?_
  rw [saveStatus_eq]
  exact (yields_save h.2 hclock _ _).bind fun _ _ hlast => Act.yields_pure hlast

end Desk

namespace Http

variable {d : Desk} {v : View} {t : Timestamp} {form : CycleForm}

theorem yields_warnUnless (hv : d.view = v) (hclock : v.clock.toUtc = .ok t) (saved : Bool)
    (warning : Log.Notice) :
    (warnUnless saved warning).Yields d fun _ later => later.view = v := by
  cases saved with
  | true => exact Act.yields_pure hv
  | false => exact yields_notify hv hclock [warning]

theorem yields_saveCycle (hv : d.view = v) (hclock : v.clock.toUtc = .ok t)
    (tenant conversation : String) :
    (saveCycle tenant conversation).Yields d fun _ later => later.view = v := by
  unfold saveCycle
  refine (yields_persistTenant hv hclock tenant).bind fun saved later h => ?_
  refine (yields_warnUnless h hclock saved _).bind fun _ later h => ?_
  refine (yields_persistConversation h hclock tenant conversation).bind fun saved later h => ?_
  exact yields_warnUnless h hclock saved _

/-! ## Mute requests -/

/-- The text for the client in an answer. -/
def Answer.outboundText? : Answer → Option String
  | .body _ json =>
    match json.get? "outbound_text" with
    | some (.str text) => some text
    | _ => none
  | .unprocessable _ => none

/-- An act that might ask a generator does not speak: it is the same whatever is done while a
generator is at work, gives no text for the client, counts nothing, and posts nothing but alerts. -/
structure Mute (act : Errands → Act Answer) (d : Desk) : Prop where
  unasked : ∀ errands, (act errands).run d = (act quiet).run d
  unsaid : ∀ a, ((act quiet).run d).1 = .ok a → a.outboundText? = none
  counters : ((act quiet).run d).2.ledger.counters = d.ledger.counters
  posts : ∃ posts, ((act quiet).run d).2.outbox.posts = d.outbox.posts ++ posts ∧
    ∀ p ∈ posts, ∃ text, d.settings.channel.post? text = some p

theorem mute_of_view {act : Errands → Act Answer} {result : Except Fault Answer} {after : Desk}
    (hrun : ∀ errands, (act errands).run d = (result, after))
    (hsaid : ∀ a, result = .ok a → a.outboundText? = none) (hview : after.view = d.view) :
    Mute act d := by
  refine ⟨fun errands => (hrun errands).trans (hrun quiet).symm, ?_, ?_, [], ?_, nofun⟩
  · rw [hrun]
    exact hsaid
  · rw [hrun]
    exact congrArg View.counters hview
  · rw [hrun, List.append_nil]
    exact congrArg View.posts hview

theorem outboundText?_cycleJson (o : CycleOutcome) :
    (Answer.ok (cycleJson o)).outboundText? = o.action.outbound.bind Words.text? := by
  have hget : (cycleJson o).get? "outbound_text" = some (optionalWords o.action.outbound) := by
    simp [cycleJson, Json.get?, Table.find?]
  simp only [Answer.ok, Answer.outboundText?, hget]
  cases o.action.outbound with
  | none => rfl
  | some words => cases words <;> rfl

/-- A cycle that sends nothing can be answered. -/
theorem tellCycle_of_outbound {o : CycleOutcome} (h : o.action.outbound = none) :
    tellCycle o = pure (.ok (cycleJson o)) := by
  have hfit : unfitSaid o.action = [] := (unfitSaid_eq_nil_iff _).mpr (by simp [h])
  simp [tellCycle, hfit]

theorem mute_runCycle (hd : d.WellFormed) (h : (d.registry.status form.conversation).Halted)
    (event : Option Conversation.Event) :
    Mute (fun errands => runCycle errands form event) d := by
  obtain ⟨t, hclock⟩ := hd.clock
  let r := incoming d form event
  -- Hours that cannot be evaluated end a cycle before anything is chosen.
  cases hhours : d.settings.isOpen t with
  | error e =>
    have hcycle (errands : Errands) : (cycle errands r).run d = (.error (.hours e), d.opened r) := by
      rw [run_cycle hclock, hhours]
      rfl
    have hrun (errands : Errands) :
        (runCycle errands form event).run d = (.error (.hours e), d.opened r) := by
      rw [run_runCycle_onProcess]
      exact Act.run_bind_error (hcycle errands)
    exact mute_of_view hrun nofun (view_opened hclock r)
  | ok inside =>
    have hmay : ¬ d.MaySpeak r t := Conversation.Status.Halted.not_maySpeak h
    obtain ⟨o, later, hsilent⟩ := exists_silent hclock hhours hmay
    have hlater : d.Within { tenants := {r.tenant}, conversations := {r.conversation} } later := by
      have hkeeps : (cycle quiet r).Keeps
          { tenants := {r.tenant}, conversations := {r.conversation} } :=
        keeps_cycle (Set.mem_singleton _) (Set.mem_singleton _)
      have hwithin := hkeeps d hd
      rwa [hsilent.unasked quiet] at hwithin
    have hread : later.clock.toUtc = .ok t := by rw [hlater.clock, hclock]
    obtain ⟨_, after, hsave, hview⟩ :=
      yields_saveCycle rfl hread (tenantOf d form.tenant) form.conversation
    have hnumber : d.number = later.number := by rw [number, number, hsilent.earlier]
    have hrun (errands : Errands) :
        (runCycle errands form event).run d = (.ok (.ok (cycleJson o)), after) := by
      rw [run_runCycle_onProcess, Act.run_bind_ok (hsilent.unasked errands), hnumber,
        run_onProcess_newest, Act.run_bind_ok hsave, tellCycle_of_outbound hsilent.outbound]
      rfl
    refine ⟨fun errands => (hrun errands).trans (hrun quiet).symm, ?_, ?_, ?_⟩
    · rw [hrun]
      rintro a ⟨⟩
      rw [outboundText?_cycleJson, hsilent.outbound]
      rfl
    · rw [hrun]
      exact (congrArg View.counters hview).trans hsilent.counters
    · obtain ⟨posts, hposts, halerts⟩ := hsilent.posts
      refine ⟨posts, ?_, halerts⟩
      rw [hrun]
      exact (congrArg View.posts hview).trans hposts

theorem mute_answerCycle (hd : d.WellFormed) (h : (d.registry.status form.conversation).Halted) :
    Mute (fun errands => answerCycle errands form) d := by
  rcases answerCycle_eq form with hinvalid | ⟨event, hanswer⟩
  · simp only [hinvalid]
    refine mute_of_view (fun _ => Act.run_pure _ d) ?_ rfl
    rintro a ⟨⟩
    rfl
  · simp only [hanswer]
    exact mute_runCycle hd h event

/-- A request for a cycle of a conversation that is left to humans is mute. -/
theorem mute_serve {r : Request} {id : String} (hd : d.WellFormed)
    (h : (d.registry.status id).Halted) (hcycle : r.Cycles id) :
    Mute (fun errands => serve errands r) d := by
  obtain ⟨form, hcall, rfl⟩ := hcycle.form
  have hmute := mute_answerCycle hd h
  have hserve (errands : Errands) :
      (serve errands r).run d = (answerCycle errands form).run d :=
    run_serve_of_call hcall errands d
  refine ⟨fun errands => ?_, fun a ha => ?_, ?_, ?_⟩
  · rw [hserve, hserve, hmute.unasked]
  · rw [hserve] at ha
    exact hmute.unsaid a ha
  · rw [hserve]
    exact hmute.counters
  · rw [hserve]
    exact hmute.posts

end Http

namespace Desk

variable {d : Desk} {id : String} {turn : Turn} {turns : List Turn} {s : Conversation.Status}

/-! ## Through a session -/

/-- What leaves a conversation to humans is in memory as well as in its row. -/
structure Held (s : Conversation.Status) (id : String) (d : Desk) : Prop where
  status : s.HaltKept (d.registry.status id)
  saved : s.HaltKept (d.savedStatus id)

theorem Held.step (h : Held s id d) (hd : d.WellFormed) (hoverride : ¬ turn.Overrides id)
    (hsaved : ¬ (d.step turn).LostSave) : Held s id (d.step turn) := by
  -- A turn that keeps the conversation makes memory and row the same; any other changes neither.
  by_cases hkeeps : turn.Keeps id d
  · have hrow := savedStatus_of_keeps hd hkeeps hsaved
    have hstatus : s.HaltKept ((d.step turn).registry.status id) := by
      cases turn with
      | request r =>
        have hback := r.notMem_handedBack hoverride d
        exact h.status.trans ((within_request hd r).halt id hback)
      | world w => exact h.status
      | pass => exact hkeeps.elim
      | restart =>
        obtain ⟨t, -, -, hstarted⟩ := started_restart hd
        rw [hstarted.status]
        exact h.saved
    exact ⟨hstatus, hrow ▸ hstatus⟩
  · refine ⟨?_, ?_⟩
    · rw [status_step hd hkeeps hoverride]
      exact h.status
    · rw [savedStatus_step hd hkeeps]
      exact h.saved

theorem Held.through (h : Held s id d) (hd : d.WellFormed)
    (hback : ∀ turn ∈ turns, ¬ turn.Overrides id) (hsaved : ¬ (d.through turns).LostSave) :
    Held s id (d.through turns) := by
  induction turns generalizing d with
  | nil => exact h
  | cons turn rest ih =>
    have hwf := wellFormed_step hd turn
    have hearlier : ¬ (d.step turn).LostSave := fun hlost => hsaved (hlost.mono (log_through hwf rest))
    have hidle : ¬ turn.Overrides id := hback turn (List.mem_cons_self ..)
    have hrest (next : Turn) (hnext : next ∈ rest) : ¬ next.Overrides id :=
      hback next (List.mem_cons_of_mem _ hnext)
    exact ih (h.step hd hidle hearlier) hwf hrest hsaved

/-- A conversation that a concluded cycle has left to humans stays with them until it is handed back;
any other cycle leaves everything as it was. Through all turns, restarts included, a terminal state
stays terminal and a stopped automation stopped, and every further cycle is mute. -/
theorem halted_stays_mute {archive : Archive} (settings : Settings)
    (given : Option Generation.Generator) (w : World) (before later : List Turn) (r : Http.Request)
    (harchive : archive.WellFormed) (hcycle : r.Cycles id)
    (hback : ∀ turn ∈ later, ¬ turn.Overrides id) :
    let asked := (launched settings given archive w).through before
    let left := asked.step (.request r)
    let d := left.through later
    r.Concluded asked → (left.registry.status id).Halted → ¬ d.LostSave →
    (left.registry.status id).HaltKept (d.registry.status id) ∧
      ∀ r' : Http.Request, r'.Cycles id → Http.Mute (fun errands => Http.serve errands r') d := by
  intro asked left d hconcluded hhalted hsaved
  have hasked : asked.WellFormed :=
    wellFormed_through (wellFormed_launched settings given w harchive) before
  have hleft : left.WellFormed := wellFormed_step hasked _
  have hearlier : ¬ left.LostSave := fun hlost => hsaved (hlost.mono (log_through hleft later))
  have hrow : left.savedStatus id = left.registry.status id :=
    savedStatus_of_keeps hasked ⟨hcycle, hconcluded⟩ hearlier
  have hheld : Held (left.registry.status id) id left := ⟨.refl _, hrow ▸ .refl _⟩
  have hlast : Held (left.registry.status id) id d := hheld.through hleft hback hsaved
  refine ⟨hlast.status, fun r' hr' => ?_⟩
  exact Http.mute_serve (wellFormed_through hleft later) (hlast.status.halted hhalted) hr'

/-- After a threat the conversation is escalated, and a restart does not bring it back. -/
theorem halted_stays_mute_threat :
    let noon : Timestamp := ⟨738000 * Timestamp.day + 43200 * Timestamp.second, some 0⟩
    let w : World := { clock := noon, readable := ⟨noon, rfl⟩ }
    let generator : Generation.Generator := .rehearsed (.reply (.str "Bonjour") (.str "stub"))
    let first := launched {} (some generator) { audit := .memory [] } w
    let threat : Http.Request :=
      { method := "POST", target := "/api/v1/cycle"
        content := some ("\x7b\"conversation_id\": \"chat\", \"message\": \"Bonjour\", " ++
          "\"event\": \"ThreatDetected\"\x7d") }
    let greeting : Http.Request :=
      { method := "POST", target := "/api/v1/cycle"
        content := some "\x7b\"conversation_id\": \"chat\", \"message\": \"Bonjour\"\x7d" }
    let asked := first.through [.pass]
    let left := asked.step (.request threat)
    let d := left.through [.restart]
    threat.Cycles "chat" ∧ threat.Concluded asked ∧ (left.registry.status "chat").Halted ∧
    ¬ d.LostSave ∧ (d.registry.status "chat").state.isTerminal = true ∧
    Http.Mute (fun errands => Http.serve errands greeting) d := by
  intro noon w generator first threat greeting asked left d
  have hcycle : threat.Cycles "chat" := by decide +kernel
  have hconcluded : threat.Concluded asked := Or.inl (by decide +kernel)
  have hescalated : left.registry.status "chat" = { state := .escalated } := by decide +kernel
  have hterminal : (left.registry.status "chat").state.isTerminal = true := by
    rw [hescalated]
    rfl
  have hsaved : ¬ d.LostSave := by decide +kernel
  have hback : ∀ turn ∈ [Turn.restart], ¬ turn.Overrides "chat" := by decide
  obtain ⟨hkept, hmute⟩ := halted_stays_mute {} (some generator) w [.pass] [.restart] threat
    (Archive.wellFormed_empty _) hcycle hback hconcluded (Or.inl hterminal) hsaved
  exact ⟨hcycle, hconcluded, Or.inl hterminal, hsaved, hkept.terminal hterminal,
    hmute greeting (by decide +kernel)⟩

end Desk

end SalesDesk
