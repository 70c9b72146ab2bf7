import SalesDesk.Proofs.Desk.Keeping

/-!
# Frames

What an act leaves alone is shown once for all that may be asked about it. A frame relates the desk
before an act to the desk after it, and is told how many audit records were kept in between. Logging,
sending, drawing and numbering go unnoticed in a frame, and so does entering a tenant or a
conversation. An act that does nothing else leads from one desk to another in every frame; any other
does so in a frame that allows what it changes.
-/

namespace SalesDesk

open Quota

/-- The clock and the processes that were replaced are as before. -/
structure Desk.Steady (d after : Desk) : Prop where
  clock : after.clock = d.clock
  earlier : after.earlier = d.earlier

namespace Act

variable {α β : Type} {R : Desk → Desk → Prop} {act : Act α} {next : α → Act β}

/-- Whatever becomes of an act, the desks before and after it are in a relation. -/
def Leads (R : Desk → Desk → Prop) (act : Act α) : Prop := ∀ d : Desk, R d (act.run d).2

/-- Wherever the clock can be read, an act has a result, and one that satisfies a condition. -/
def Gives (p : α → Prop) (act : Act α) : Prop :=
  ∀ (d : Desk) (t : Timestamp), d.clock.toUtc = .ok t →
    ∃ a after, act.run d = (.ok a, after) ∧ p a

/-- Wherever the clock can be read, the desks before an act and after its failure are in a relation.
A fault is a failure, and so is a result of a certain kind. -/
def Spares (R : Desk → Desk → Prop) (failed : α → Prop) (act : Act α) : Prop :=
  ∀ (d : Desk) (t : Timestamp) (result : Except Fault α) (after : Desk), d.clock.toUtc = .ok t →
    act.run d = (result, after) → (∀ a, result = .ok a → failed a) → R d after

variable {p : α → Prop} {q failed : β → Prop}

theorem Leads.map (h : act.Leads R) (f : α → β) : (f <$> act).Leads R := by
  intro d
  rw [run_map]
  exact h d

theorem Leads.spares {next : Act β} (h : next.Leads R) : next.Spares R failed := by
  intro d t result after _ hrun _
  have hled := h d
  rwa [hrun] at hled

theorem Gives.spares {next : Act β} (h : next.Gives q) (hq : ∀ b, q b → ¬ failed b) :
    next.Spares R failed := by
  intro d t result after hclock hrun hfailed
  obtain ⟨b, later, hresult, hb⟩ := h d t hclock
  rw [hrun] at hresult
  exact absurd (hfailed b (congrArg Prod.fst hresult)) (hq b hb)

theorem gives_pure {a : α} (h : p a) : (pure a : Act α).Gives p := fun d _ _ => ⟨a, d, rfl, h⟩

theorem gives_change (f : Desk → Desk) : (change f).Gives fun _ => True :=
  fun d _ _ => ⟨(), f d, rfl, trivial⟩

theorem Gives.bind (h : act.Gives p) (hsteady : act.Leads Desk.Steady)
    (hnext : ∀ a, p a → (next a).Gives q) : (act >>= next).Gives q := by
  intro d t hclock
  have hlater := hsteady d
  obtain ⟨a, later, hrun, ha⟩ := h d t hclock
  rw [hrun] at hlater
  rw [run_bind_ok hrun]
  exact hnext a ha later t (hlater.clock ▸ hclock)

/-- What follows a change has to have a result that is no failure. -/
theorem Spares.bind (h : act.Spares R fun _ => False) (hsteady : act.Leads Desk.Steady)
    (hnext : ∀ a, (next a).Gives fun b => ¬ failed b) : (act >>= next).Spares R failed := by
  intro d t result after hclock hrun hfailed
  have hlater := hsteady d
  rcases hact : act.run d with ⟨e | a, later⟩
  · rw [run_bind_error hact] at hrun
    cases hrun
    exact h d t _ _ hclock hact fun a ha => by cases ha
  · rw [hact] at hlater
    obtain ⟨b, last, hlast, hb⟩ := hnext a later t (hlater.clock ▸ hclock)
    rw [run_bind_ok hact, hlast] at hrun
    cases hrun
    exact absurd (hfailed b rfl) hb

end Act

namespace Desk

variable {d later after : Desk} {t : Timestamp} {tenant id : String} {a : Account} {n : Nat}

/-- `R n d after` relates desks between which at most `n` audit records were kept. -/
structure Frame (R : Nat → Desk → Desk → Prop) : Prop where
  steady : ∀ {n d after}, R n d after → d.Steady after
  refl : ∀ d, R 0 d d
  mono : ∀ {m n d after}, m ≤ n → R m d after → R n d after
  trans : ∀ {m n d later after}, R m d later → R n later after → R (m + n) d after
  unnoticed : ∀ (d : Desk) outbox draws lastId, d.outbox.records <+: outbox.records →
    R 0 d { d with outbox, draws, lastId }
  entered : ∀ {d : Desk} {tenant a}, d.ledger.account tenant d.clock.toUtc = .ok a →
    R 0 d (d.withAccount tenant a)
  touched : ∀ (d : Desk) id, R 0 d { d with registry := d.registry.touch id }

theorem frame_steady : Frame fun _ => Steady where
  steady h := h
  refl _ := ⟨rfl, rfl⟩
  mono _ h := h
  trans h hlast := ⟨hlast.clock.trans h.clock, hlast.earlier.trans h.earlier⟩
  unnoticed _ _ _ _ _ := ⟨rfl, rfl⟩
  entered _ := ⟨rfl, rfl⟩
  touched _ _ := ⟨rfl, rfl⟩

theorem Steady.number (h : d.Steady after) : after.number = d.number :=
  congrArg List.length h.earlier

namespace Frame

variable {α β : Type} {R : Nat → Desk → Desk → Prop} {act : Act α} {next : α → Act β}
  (hR : Frame R)

include hR

theorem after_none (h : R 0 d later) (hlast : R n later after) : R n d after :=
  Nat.zero_add n ▸ hR.trans h hlast

theorem logged (d : Desk) (t : Timestamp) (notices : List Log.Notice) : R 0 d (d.logged t notices) :=
  hR.unnoticed d _ d.draws d.lastId (List.prefix_append ..)

theorem drawn (d : Desk) : R 0 d d.drawn :=
  hR.unnoticed d d.outbox _ d.lastId (List.prefix_refl _)

theorem numbered (d : Desk) : R 0 d d.numbered :=
  hR.unnoticed d d.outbox d.draws _ (List.prefix_refl _)

theorem leads_pure (a : α) : (pure a : Act α).Leads (R n) := fun d => hR.mono n.zero_le (hR.refl d)

theorem leads_fail (e : Fault) : (Act.fail e : Act α).Leads (R n) :=
  fun d => hR.mono n.zero_le (hR.refl d)

theorem leads_look (f : Desk → α) : (Act.look f).Leads (R n) :=
  fun d => hR.mono n.zero_le (hR.refl d)

omit hR in
theorem leads_change {f : Desk → Desk} (h : ∀ d, R n d (f d)) : (Act.change f).Leads (R n) := h

theorem leads_ofExcept {ε : Type} (fault : ε → Fault) (r : Except ε α) :
    (Act.ofExcept fault r).Leads (R n) := by
  cases r with
  | ok a => exact hR.leads_pure a
  | error e => exact hR.leads_fail (fault e)

theorem after_bind (h : R 0 d (act.run d).2) (hnext : ∀ a, (next a).Leads (R n)) :
    R n d ((act >>= next).run d).2 := by
  rcases hrun : act.run d with ⟨e | a, later⟩
  · rw [hrun] at h
    rw [Act.run_bind_error hrun]
    exact hR.mono n.zero_le h
  · rw [hrun] at h
    rw [Act.run_bind_ok hrun]
    exact hR.after_none h (hnext a later)

theorem leads_bind (h : act.Leads (R 0)) (hnext : ∀ a, (next a).Leads (R n)) :
    (act >>= next).Leads (R n) :=
  fun d => hR.after_bind (h d) hnext

/-- After an act that may keep records, none may be kept. -/
theorem leads_bind_last (h : act.Leads (R n)) (hnext : ∀ a, (next a).Leads (R 0)) :
    (act >>= next).Leads (R n) := by
  intro d
  have hact := h d
  rcases hrun : act.run d with ⟨e | a, later⟩
  · rw [hrun] at hact
    rw [Act.run_bind_error hrun]
    exact hact
  · rw [hrun] at hact
    rw [Act.run_bind_ok hrun]
    exact hR.trans hact (hnext a later)

theorem spares_bind {failed : β → Prop} (h : act.Leads (R 0))
    (hnext : ∀ a, (next a).Spares (R 0) failed) : (act >>= next).Spares (R 0) failed := by
  intro d t result after hclock hrun hfailed
  have hlater := h d
  rcases hact : act.run d with ⟨e | a, later⟩
  · rw [hact] at hlater
    rw [Act.run_bind_error hact] at hrun
    cases hrun
    exact hlater
  · rw [hact] at hlater
    rw [Act.run_bind_ok hact] at hrun
    have hclock' : later.clock.toUtc = .ok t := (hR.steady hlater).clock ▸ hclock
    exact hR.trans hlater (hnext a later t result after hclock' hrun hfailed)

/-! ## Clock, log and what is sent -/

theorem leads_now : now.Leads (R 0) := by
  intro d
  cases hclock : d.clock.toUtc with
  | ok t =>
    rw [run_now hclock]
    exact hR.refl d
  | error e =>
    rw [run_now_error hclock]
    exact hR.refl d

omit hR in
theorem gives_now : now.Gives fun _ => True := fun d t hclock => ⟨t, d, run_now hclock, trivial⟩

theorem leads_notify (notices : List Log.Notice) : (notify notices).Leads (R 0) := by
  intro d
  cases hclock : d.clock.toUtc with
  | ok t =>
    rw [run_notify hclock]
    exact hR.logged d t notices
  | error e =>
    cases notices with
    | nil => exact hR.refl d
    | cons first rest =>
      rw [run_notify_error hclock]
      exact hR.refl d

omit hR in
theorem gives_notify (notices : List Log.Notice) : (notify notices).Gives fun _ => True :=
  fun _ _ hclock => ⟨(), _, run_notify hclock notices, trivial⟩

theorem leads_send (posts : List Post) : (send posts).Leads (R 0) :=
  fun d => hR.unnoticed d _ d.draws d.lastId (List.prefix_refl _)

theorem leads_drawBase : drawBase.Leads (R 0) := hR.drawn

/-! ## Accounts -/

theorem leads_account (tenant : String) (f : Account → α) : (account tenant f).Leads (R 0) := by
  intro d
  cases ha : d.ledger.account tenant d.clock.toUtc with
  | ok a =>
    rw [run_account ha]
    exact hR.entered ha
  | error e =>
    rw [run_account_error ha]
    exact hR.refl d

omit hR in
theorem gives_account (tenant : String) (f : Account → α) :
    (account tenant f).Gives fun _ => True := by
  intro d t hclock
  obtain ⟨a, ha⟩ := exists_account hclock tenant
  exact ⟨_, _, run_account ha f, trivial⟩

theorem leads_pause (tenant : String) : (pause tenant).Leads (R 0) := by
  unfold pause
  apply hR.leads_bind (hR.leads_account tenant _)
  intro _
  apply hR.leads_bind hR.leads_drawBase
  intro base
  exact hR.leads_bind (hR.leads_account tenant _) fun r => hR.leads_ofExcept _ r

theorem leads_needsResets (tenant : String) : (needsResets tenant).Leads (R 0) := by
  unfold needsResets
  apply hR.leads_bind hR.leads_now
  intro time
  exact hR.leads_bind (hR.leads_account tenant _) fun r => hR.leads_ofExcept _ r

/-- A send is admitted and counted, or goes unnoticed. -/
theorem trySend_cases (d : Desk) (tenant : String) (x : Send) :
    (∃ a pause, d.ledger.account tenant d.clock.toUtc = .ok a ∧ x.can a = true ∧
      (trySend tenant x).run d = (.ok ⟨true, a.snapshot, x.count a.snapshot, some pause⟩,
        d.drawn.withAccount tenant (a.withSnapshot (x.count a.snapshot)))) ∨
    (∃ result after, (trySend tenant x).run d = (result, after) ∧
      (∀ admission, result = .ok admission → admission.allowed = false) ∧ R 0 d after) := by
  have hfault (e : Fault) (admission : Admission) :
      Except.error e = .ok admission → admission.allowed = false := fun h => by cases h
  cases ha : d.ledger.account tenant d.clock.toUtc with
  | error e =>
    refine Or.inr ⟨.error (.time e), d, ?_, hfault _, hR.refl d⟩
    rw [trySend_eq]
    exact Act.run_bind_error (run_account_error ha)
  | ok a =>
    cases hcan : x.can a with
    | false =>
      cases hclock : d.clock.toUtc with
      | ok t =>
        refine Or.inr ⟨_, _, run_trySend_refused ha hcan hclock, ?_,
          hR.trans (hR.entered ha) (hR.logged _ t _)⟩
        rintro admission ⟨⟩
        rfl
      | error e =>
        exact Or.inr ⟨_, _, run_trySend_unlogged ha hcan hclock, hfault _, hR.entered ha⟩
    | true =>
      cases hpause : a.delay d.base with
      | ok pause => exact Or.inl ⟨a, pause, rfl, hcan, run_trySend_admitted ha hcan hpause⟩
      | error fault =>
        have hentered : R 0 d.drawn (d.drawn.withAccount tenant a) := hR.entered ha
        exact Or.inr ⟨_, _, run_trySend_noPause ha hcan hpause, hfault _,
          hR.trans (hR.drawn d) hentered⟩

theorem of_not_admitted {x : Send} {result : Except Fault Admission}
    (hrun : (trySend tenant x).run d = (result, after))
    (h : ∀ admission, result = .ok admission → admission.allowed = false) : R 0 d after := by
  rcases hR.trySend_cases d tenant x with ⟨a, pause, -, -, hadmitted⟩ | ⟨_, _, hother, -, hsame⟩
  · rw [hadmitted] at hrun
    cases hrun
    simpa using h _ rfl
  · rw [hother] at hrun
    cases hrun
    exact hsame

theorem leads_trySend {x : Send}
    (h : ∀ (d : Desk) a, d.ledger.account tenant d.clock.toUtc = .ok a → x.can a = true →
      R 0 d (d.withAccount tenant (a.withSnapshot (x.count a.snapshot)))) :
    (trySend tenant x).Leads (R 0) := by
  intro d
  rcases hR.trySend_cases d tenant x with ⟨a, pause, ha, hcan, hadmitted⟩ | ⟨_, _, hother, -, hsame⟩
  · rw [hadmitted]
    exact hR.trans (hR.drawn d) (h d.drawn a ha hcan)
  · rw [hother]
    exact hsame

/-- A send that ends in a fault is not counted. -/
theorem spares_trySend (tenant : String) (x : Send) :
    (trySend tenant x).Spares (R 0) fun _ => False :=
  fun _ _ _ _ _ hrun hfailed => hR.of_not_admitted hrun fun admission h => (hfailed admission h).elim

/-- A reset leaves the limits of its account, and sets its own counters to zero. -/
theorem leads_runReset {r : Reset}
    (h : ∀ (d : Desk) (a b : Account), d.ledger.account tenant d.clock.toUtc = .ok a →
      b.limits = a.limits → b.snapshot = r.renew a.snapshot → R 0 d (d.withAccount tenant b)) :
    (runReset tenant r).Leads (R 0) := by
  intro d
  cases ha : d.ledger.account tenant d.clock.toUtc with
  | error e =>
    rw [runReset_eq, Act.run_bind_error (run_onAccount_error ha _)]
    exact hR.refl d
  | ok a =>
    cases hclock : d.clock.toUtc with
    | ok t =>
      rw [run_runReset r ha hclock]
      exact hR.trans (h d a (a.reset r t) ha rfl rfl) (hR.logged _ t _)
    | error e =>
      rw [run_runReset_unstamped r ha hclock]
      exact h d a _ ha rfl rfl

omit hR in
theorem gives_runReset (tenant : String) (r : Reset) :
    (runReset tenant r).Gives fun _ => True := by
  intro d t hclock
  obtain ⟨a, ha⟩ := exists_account hclock tenant
  exact ⟨_, _, run_runReset r ha hclock, trivial⟩

/-! ## Conversations -/

theorem leads_status (id : String) : (status id).Leads (R 0) := fun d => hR.touched d id

theorem leads_applyEvent {e : Conversation.Event}
    (h : ∀ d : Desk, R 0 d { d with registry := d.registry.applyEvent id e }) :
    (applyEvent id e).Leads (R 0) := by
  unfold applyEvent
  apply hR.leads_bind (hR.leads_status id)
  intro s
  apply hR.leads_bind (leads_change h)
  intro _
  dsimp only
  split
  · exact hR.leads_pure _
  · exact hR.leads_bind (hR.leads_notify _) fun _ => hR.leads_pure _

theorem leads_stopAutomation
    (h : ∀ d : Desk, R 0 d { d with registry := d.registry.stop id }) :
    (stopAutomation id).Leads (R 0) := by
  unfold stopAutomation
  exact hR.leads_bind (leads_change h) fun _ => hR.leads_notify _

theorem leads_override {state : Option Conversation.State}
    (h : ∀ d : Desk, R 0 d { d with registry := d.registry.override id state }) :
    (override id state).Leads (R 0) := by
  unfold override
  apply hR.leads_bind (leads_change h)
  intro _
  exact hR.leads_bind (hR.leads_notify _) fun _ => hR.leads_pure _

omit hR in
theorem gives_override (id : String) (state : Option Conversation.State) :
    (override id state).Gives fun _ => True := by
  have hchange : (Act.change fun d : Desk =>
      { d with registry := d.registry.override id state }).Leads Steady := fun _ => ⟨rfl, rfl⟩
  unfold override
  apply (Act.gives_change _).bind hchange
  intro _ _
  exact (gives_notify _).bind (frame_steady.leads_notify _) fun _ _ => Act.gives_pure trivial

/-! ## The archive -/

theorem leads_save {write : Archive → Timestamp → Except WriteError Archive}
    (h : ∀ (d : Desk) t archive, write d.archive t = .ok archive → R 0 d { d with archive })
    (lost : WriteError → Log.Notice) : (save write lost).Leads (R 0) := by
  intro d
  cases hclock : d.clock.toUtc with
  | ok t =>
    rcases run_save hclock write lost with ⟨archive, hwrite, hrun⟩ | ⟨e, hrun⟩
    · rw [hrun]
      exact h d t archive hwrite
    · rw [hrun]
      exact hR.logged d t _
  | error e =>
    rw [save, Act.run_bind_error (run_now_error hclock)]
    exact hR.refl d

omit hR in
theorem gives_save (write : Archive → Timestamp → Except WriteError Archive)
    (lost : WriteError → Log.Notice) : (save write lost).Gives fun _ => True := by
  intro d t hclock
  rcases run_save hclock write lost with ⟨archive, -, hrun⟩ | ⟨e, hrun⟩
  · exact ⟨_, _, hrun, trivial⟩
  · exact ⟨_, _, hrun, trivial⟩

theorem leads_persistTenant
    (h : ∀ (d : Desk) e t archive, d.archive.saveUsage tenant e t = .ok archive →
      R 0 d { d with archive }) : (persistTenant tenant).Leads (R 0) := by
  unfold persistTenant
  apply hR.leads_bind (hR.leads_account tenant _)
  intro usage
  rw [saveUsage_eq]
  exact hR.leads_bind (hR.leads_save (fun d t archive => h d _ t archive) _) fun _ =>
    hR.leads_pure _

theorem leads_persistConversation
    (h : ∀ (d : Desk) e t archive, d.archive.saveStatus id e t = .ok archive →
      R 0 d { d with archive }) : (persistConversation tenant id).Leads (R 0) := by
  unfold persistConversation
  apply hR.leads_bind (hR.leads_status id)
  intro status
  rw [saveStatus_eq]
  exact hR.leads_bind (hR.leads_save (fun d t archive => h d _ t archive) _) fun _ =>
    hR.leads_pure _

omit hR in
theorem gives_persistTenant (tenant : String) : (persistTenant tenant).Gives fun _ => True := by
  unfold persistTenant
  apply (gives_account tenant _).bind (frame_steady.leads_account tenant _)
  intro usage _
  rw [saveUsage_eq]
  exact (gives_save _ _).bind (frame_steady.leads_save (fun _ _ _ _ => ⟨rfl, rfl⟩) _) fun _ _ =>
    Act.gives_pure trivial

omit hR in
theorem gives_persistConversation (tenant id : String) :
    (persistConversation tenant id).Gives fun _ => True := by
  unfold persistConversation
  apply Act.Gives.bind (p := fun _ => True) (fun d _ _ => ⟨_, _, rfl, trivial⟩)
    (frame_steady.leads_status id)
  intro status _
  rw [saveStatus_eq]
  exact (gives_save _ _).bind (frame_steady.leads_save (fun _ _ _ _ => ⟨rfl, rfl⟩) _) fun _ _ =>
    Act.gives_pure trivial

theorem leads_makeRecord (e : Audit.Entry) (time : Option Timestamp) :
    (makeRecord e time).Leads (R 0) := by
  intro d
  rw [run_makeRecord]
  exact hR.numbered d

/-- What follows the making of a record may rely on its entry. -/
theorem leads_makeRecord_bind {e : Audit.Entry} {time : Option Timestamp}
    {next : Audit.Record → Act β}
    (hnext : ∀ r : Audit.Record, r.toEntry = e → (next r).Leads (R n)) :
    (makeRecord e time >>= next).Leads (R n) := by
  intro d
  have hmake := run_makeRecord (d := d) e time
  cases hstamp : d.stamp time with
  | error fault =>
    rw [hstamp] at hmake
    rw [Act.run_bind_error hmake]
    exact hR.mono n.zero_le (hR.numbered d)
  | ok u =>
    rw [hstamp] at hmake
    rw [Act.run_bind_ok hmake]
    exact hR.after_none (hR.numbered d) (hnext _ rfl d.numbered)

theorem leads_keepRecord {r : Audit.Record}
    (h : ∀ (d : Desk) archive, d.archive.append r = .ok archive → R n d { d with archive }) :
    (keepRecord r).Leads (R n) := by
  intro d
  have hlook := Act.run_look (fun d : Desk => d.archive.append r) d
  unfold keepRecord
  rw [Act.run_bind_ok hlook]
  cases happend : d.archive.append r with
  | error e =>
    exact hR.leads_bind (hR.leads_notify _) (fun _ => hR.leads_pure _) d
  | ok archive =>
    have htold : (notify [r.writtenNotice] >>= fun _ => pure (Result.success r)).Leads (R 0) :=
      hR.leads_bind (hR.leads_notify _) fun _ => hR.leads_pure _
    exact hR.trans (h d archive happend) (htold { d with archive })

end Frame

end Desk

end SalesDesk
