import SalesDesk.Proofs.Audit.Stores
import SalesDesk.Proofs.Desk.Answering
import Mathlib.Data.Set.Basic

/-!
# What requests leave behind

What leaves a desk untouched changes nothing but the log, the drawn numbers, the numbers of audit
records, and the names of tenants and conversations that were asked about. A request leaves the trace
that can be told from its call: the counters, resets, statuses and rows that it is about, the products
that it brings, and at most one audit record more.
-/

namespace SalesDesk

open Quota

namespace Desk

variable {d after : Desk} {tenant id : String} {a b : Account}

/-! ## Requests that fail -/

/-- Nothing has changed but what was sent out, drawn and numbered, and which names were entered. -/
structure Untouched (d after : Desk) : Prop where
  steady : d.Steady after
  catalogue : after.catalogue = d.catalogue
  archive : after.archive = d.archive
  known : ∀ tenant a, d.ledger.accounts.find? tenant = some a →
    after.ledger.accounts.find? tenant = some a
  counters : after.ledger.counters = d.ledger.counters
  limits : after.ledger.limitsOf = d.ledger.limitsOf
  status : after.registry.status = d.registry.status

theorem known_entered {other : String} (ha : d.ledger.account tenant d.clock.toUtc = .ok a)
    (hb : d.ledger.accounts.find? other = some b) :
    (d.withAccount tenant a).ledger.accounts.find? other = some b := by
  by_cases hother : tenant = other
  · subst hother
    have hsame : a = b := by simpa [Ledger.account, hb] using ha.symm
    exact hsame ▸ Table.find?_put_self ..
  · exact (Table.find?_put_of_ne _ _ hother).trans hb

theorem frame_untouched : Frame fun _ => Untouched where
  steady h := h.steady
  refl _ := ⟨⟨rfl, rfl⟩, rfl, rfl, fun _ _ h => h, rfl, rfl, rfl⟩
  mono _ h := h
  trans h hlast :=
    { steady := frame_steady.trans (m := 0) (n := 0) h.steady hlast.steady
      catalogue := hlast.catalogue.trans h.catalogue
      archive := hlast.archive.trans h.archive
      known := fun tenant a ha => hlast.known tenant a (h.known tenant a ha)
      counters := hlast.counters.trans h.counters
      limits := hlast.limits.trans h.limits
      status := hlast.status.trans h.status }
  unnoticed _ _ _ _ _ := ⟨⟨rfl, rfl⟩, rfl, rfl, fun _ _ h => h, rfl, rfl, rfl⟩
  entered ha :=
    ⟨⟨rfl, rfl⟩, rfl, rfl, fun _ _ => known_entered ha, congrArg View.counters (view_entered ha),
      congrArg View.limits (view_entered ha), rfl⟩
  touched _ id :=
    ⟨⟨rfl, rfl⟩, rfl, rfl, fun _ _ h => h, rfl, rfl, congrArg View.status (view_touch id)⟩

end Desk

namespace Http

open Desk

/-- A request is answered with an error, or not at all. -/
def Request.Fails (r : Request) (d : Desk) : Prop :=
  ∀ a, ((serve quiet r).run d).1 = .ok a → a.IsError

instance (r : Request) (d : Desk) : Decidable (r.Fails d) :=
  match h : ((serve quiet r).run d).1 with
  | .ok a => decidable_of_iff a.IsError
      ⟨fun ha b hb => Except.ok.inj (h.symm.trans hb) ▸ ha, fun hall => hall a h⟩
  | .error e => isTrue fun a ha => by
      rw [h] at ha
      cases ha

end Http

/-! ## Traces -/

/-- What may differ after an act: counters of tenants, the last resets of tenants that were known, the
rows of usages, the statuses of conversations and their rows, the catalogue, and audit records with
certain entries. -/
structure Trace where
  counters : Set (String × Gauge) := ∅
  resets : Set String := ∅
  usages : Set String := ∅
  statuses : Set String := ∅
  saved : Set String := ∅
  products : Prop := False
  entries : Set Audit.Entry := ∅

namespace Desk

/-- Two desks differ in a trace only, with at most `n` audit records more. Limits are not in a trace:
they stay. -/
structure Leaves (f : Trace) (n : Nat) (d after : Desk) : Prop where
  steady : d.Steady after
  catalogue : ¬ f.products → after.catalogue = d.catalogue
  counter : ∀ tenant g, (tenant, g) ∉ f.counters →
    g.value (after.ledger.counters tenant) = g.value (d.ledger.counters tenant)
  limits : after.ledger.limitsOf = d.ledger.limitsOf
  known : ∀ tenant a, d.ledger.accounts.find? tenant = some a →
    ∃ b, after.ledger.accounts.find? tenant = some b ∧
      (tenant ∉ f.resets → b.usage.lastReset = a.usage.lastReset)
  status : ∀ id, id ∉ f.statuses → after.registry.status id = d.registry.status id
  usage : ∀ tenant, tenant ∉ f.usages →
    after.archive.usages.find? tenant = d.archive.usages.find? tenant
  saved : ∀ id, id ∉ f.saved →
    after.archive.conversations.find? id = d.archive.conversations.find? id
  records : ∃ added : List Audit.Record, added.length ≤ n ∧
    (∀ r ∈ added, r.toEntry ∈ f.entries) ∧
    d.archive.audit.appendAll added = .ok after.archive.audit

variable {f : Trace} {m n : Nat} {d later after : Desk} {tenant id : String} {a b : Account}

theorem Untouched.leaves (h : d.Untouched after) : d.Leaves f n after where
  steady := h.steady
  catalogue _ := h.catalogue
  counter _ _ _ := by rw [h.counters]
  limits := h.limits
  known tenant a ha := ⟨a, h.known tenant a ha, fun _ => rfl⟩
  status _ _ := by rw [h.status]
  usage _ _ := by rw [h.archive]
  saved _ _ := by rw [h.archive]
  records := ⟨[], Nat.zero_le _, by simp, by rw [h.archive]; rfl⟩

theorem Leaves.trans (h : d.Leaves f m later) (hlast : later.Leaves f n after) :
    d.Leaves f (m + n) after where
  steady := frame_steady.trans (m := m) (n := n) h.steady hlast.steady
  catalogue hout := (hlast.catalogue hout).trans (h.catalogue hout)
  counter tenant g hout := (hlast.counter tenant g hout).trans (h.counter tenant g hout)
  limits := hlast.limits.trans h.limits
  known tenant a ha := by
    obtain ⟨b, hb, hreset⟩ := h.known tenant a ha
    obtain ⟨c, hc, hlastReset⟩ := hlast.known tenant b hb
    exact ⟨c, hc, fun hout => (hlastReset hout).trans (hreset hout)⟩
  status id hout := (hlast.status id hout).trans (h.status id hout)
  usage tenant hout := (hlast.usage tenant hout).trans (h.usage tenant hout)
  saved id hout := (hlast.saved id hout).trans (h.saved id hout)
  records := by
    obtain ⟨first, hfirst, hentries, hadded⟩ := h.records
    obtain ⟨second, hsecond, hentries', hadded'⟩ := hlast.records
    refine ⟨first ++ second, ?_, fun r hr => ?_, ?_⟩
    · rw [List.length_append]
      exact Nat.add_le_add hfirst hsecond
    · exact (List.mem_append.mp hr).elim (hentries r) (hentries' r)
    · rw [Audit.Store.appendAll_append hadded]
      exact hadded'

theorem frame_leaves (f : Trace) : Frame (Leaves f) where
  steady h := h.steady
  refl d := (frame_untouched.refl d).leaves
  mono hn h :=
    { h with
      records := by
        obtain ⟨added, hlength, hadded⟩ := h.records
        exact ⟨added, hlength.trans hn, hadded⟩ }
  trans h hlast := h.trans hlast
  unnoticed d outbox draws lastId hlog :=
    (frame_untouched.unnoticed d outbox draws lastId hlog).leaves
  entered ha := (frame_untouched.entered ha).leaves
  touched d id := (frame_untouched.touched d id).leaves

/-! ### What may be in a trace -/

theorem leaves_withAccount (ha : d.ledger.account tenant d.clock.toUtc = .ok a)
    (hlimits : b.limits = a.limits)
    (hcounters : ∀ g : Gauge, (tenant, g) ∉ f.counters → g.value b.snapshot = g.value a.snapshot)
    (hreset : tenant ∉ f.resets → b.usage.lastReset = a.usage.lastReset) :
    d.Leaves f n (d.withAccount tenant b) := by
  have hview : (d.withAccount tenant b).view =
      { d.view with counters := Function.update d.view.counters tenant b.snapshot } :=
    view_withAccount (hlimits.trans (Ledger.limitsOf_of_account ha).symm)
  have hbefore : d.ledger.counters tenant = a.snapshot := Ledger.counters_of_account ha
  refine { (frame_untouched.refl d).leaves (f := f) with
    steady := ⟨rfl, rfl⟩, counter := ?_, limits := congrArg View.limits hview, known := ?_ }
  · intro other g hout
    by_cases hother : other = tenant
    · subst hother
      rw [counters_withAccount, hbefore]
      exact hcounters g hout
    · have hcounter := congrFun (congrArg View.counters hview) other
      dsimp only at hcounter
      rw [Function.update_of_ne hother] at hcounter
      exact congrArg g.value hcounter
  · intro other c hc
    by_cases hother : other = tenant
    · subst hother
      have hsame : a = c := by simpa [Ledger.account, hc] using ha.symm
      exact ⟨b, Table.find?_put_self .., fun hout => hsame ▸ hreset hout⟩
    · exact ⟨c, (Table.find?_put_of_ne _ _ (Ne.symm hother)).trans hc, fun _ => rfl⟩

theorem leaves_update (hid : id ∈ f.statuses) (d : Desk)
    (g : Conversation.Status → Conversation.Status) :
    d.Leaves f n { d with registry := d.registry.update id g } :=
  { (frame_untouched.refl d).leaves (f := f) with
    steady := ⟨rfl, rfl⟩
    status := fun _ hother => Conversation.Registry.status_update_of_ne _ _
      fun hsame => hother (hsame ▸ hid) }

theorem leaves_loaded (h : f.products) (d : Desk) (catalogue : Catalogue) :
    d.Leaves f n { d with catalogue } :=
  { (frame_untouched.refl d).leaves (f := f) with
    steady := ⟨rfl, rfl⟩
    catalogue := fun hout => absurd h hout }

theorem leaves_saveUsage (htenant : tenant ∈ f.usages) (d : Desk) (e : Archive.UsageEntry)
    (t : Timestamp) (archive : Archive) (h : d.archive.saveUsage tenant e t = .ok archive) :
    d.Leaves f n { d with archive } := by
  obtain ⟨row, rfl⟩ := Archive.saveUsage_eq_ok h
  exact { (frame_untouched.refl d).leaves (f := f) with
    steady := ⟨rfl, rfl⟩
    usage := fun _ hother => Table.find?_put_of_ne _ _ fun hsame => hother (hsame ▸ htenant) }

theorem leaves_saveStatus (hid : id ∈ f.saved) (d : Desk) (e : Archive.StatusEntry)
    (t : Timestamp) (archive : Archive) (h : d.archive.saveStatus id e t = .ok archive) :
    d.Leaves f n { d with archive } := by
  obtain ⟨row, rfl⟩ := Archive.saveStatus_eq_ok h
  exact { (frame_untouched.refl d).leaves (f := f) with
    steady := ⟨rfl, rfl⟩
    saved := fun _ hother => Table.find?_put_of_ne _ _ fun hsame => hother (hsame ▸ hid) }

theorem leaves_append {r : Audit.Record} (hentry : r.toEntry ∈ f.entries) {archive : Archive}
    (h : d.archive.append r = .ok archive) : d.Leaves f 1 { d with archive } := by
  obtain ⟨audit, happend, rfl⟩ := Archive.append_eq_ok h
  exact { (frame_untouched.refl d).leaves (f := f) (n := 1) with
    steady := ⟨rfl, rfl⟩
    records := ⟨[r], Nat.le_refl 1, by simpa using hentry,
      Audit.Store.appendAll_singleton happend⟩ }

end Desk

/-! ## What a request leaves behind -/

namespace Http

open Desk

/-- The trace of a call: of a cycle the counters of messages of its tenant and the status of its
conversation with their rows, and a record about the conversation; of a send and of a reset the usage
of its tenant with its row; of an override the status of its conversation. -/
def Call.trace (d : Desk) : Call → Trace
  | .override conversation _ => { statuses := {conversation} }
  | .cycle form =>
    { counters := {x | x.1 = tenantOf d form.tenant ∧ x.2.counts .message = true}
      usages := {tenantOf d form.tenant}, statuses := {form.conversation}
      saved := {form.conversation}, entries := {e | e.conversation = some form.conversation} }
  | .recordSend form =>
    { counters := {x | x.1 = tenantOf d form.tenant}, usages := {tenantOf d form.tenant} }
  | .resetDaily name =>
    { counters := {x | x.1 = tenantOf d name}, resets := {tenantOf d name}
      usages := {tenantOf d name} }
  | .resetWeekly name =>
    { counters := {x | x.1 = tenantOf d name}, resets := {tenantOf d name}
      usages := {tenantOf d name} }
  | .loadProducts _ => { products := True }
  | .writeAudit form => { entries := {form.entry} }
  | _ => {}

/-- A request that is not understood has no trace. -/
def Request.trace (d : Desk) (r : Request) : Trace :=
  match Call.ofRequest r with
  | .error _ => {}
  | .ok call => call.trace d

variable {d : Desk}

theorem allows_leaves {form : CycleForm} (event : Option Conversation.Event) :
    Frame.Allows (Leaves ((Call.cycle form).trace d)) (incoming d form event) where
  counted d' a ha _ := by
    refine leaves_withAccount ha rfl (fun g hout => ?_) fun _ => rfl
    have hidle : g.counts .message = false := by
      by_contra hcounts
      exact hout ⟨rfl, by simpa using hcounts⟩
    have hvalue := Gauge.value_count g .message a.snapshot
    rwa [hidle, if_neg Bool.false_ne_true, Int.add_zero] at hvalue
  moved d' e := leaves_update (Set.mem_singleton _) d' _
  stopped d' := leaves_update (Set.mem_singleton _) d' _
  recorded d' record archive hconversation _ happend :=
    leaves_append (f := (Call.cycle form).trace d) hconversation happend

theorem leaves_answer (d : Desk) (call : Call) :
    d.Leaves (call.trace d) 1 ((answer quiet call).run d).2 := by
  have hreset (kind : Reset) (name : Option String) : d.Leaves
      { counters := {x | x.1 = tenantOf d name}, resets := {tenantOf d name}
        usages := {tenantOf d name} } 0 ((answerReset kind name).run d).2 := by
    apply (frame_leaves _).leads_answerReset
    · intro d' a b ha hlimits _
      exact leaves_withAccount ha hlimits (fun g hout => absurd rfl hout)
        fun hout => absurd rfl hout
    · exact leaves_saveUsage (Set.mem_singleton _)
  have hnone {f : Trace} {after : Desk} (h : d.Leaves f 0 after) : d.Leaves f 1 after :=
    (frame_leaves f).mono (Nat.zero_le 1) h
  cases call with
  | override conversation state =>
    exact hnone ((frame_leaves _).leads_answerOverride state
      (fun d' _ => leaves_update (Set.mem_singleton _) d' _) d)
  | cycle form =>
    exact (frame_leaves _).leads_answerCycle allows_leaves
      (leaves_saveUsage (Set.mem_singleton _)) (leaves_saveStatus (Set.mem_singleton _))
  | recordSend form =>
    refine hnone ((frame_leaves _).leads_answerRecord (fun d' x a ha _ => ?_) ?_)
    · exact leaves_withAccount ha rfl (fun g hout => absurd rfl hout) fun _ => rfl
    · exact leaves_saveUsage (Set.mem_singleton _)
  | resetDaily name => exact hnone (hreset .daily name)
  | resetWeekly name => exact hnone (hreset .weekly name)
  | loadProducts products =>
    exact hnone ((frame_leaves _).leads_answerLoad (fun d' => leaves_loaded trivial d' _) d)
  | writeAudit form =>
    have hwritten (d' : Desk) (r : Audit.Record) (archive : Archive)
        (hentry : r.toEntry = form.entry) (happend : d'.archive.append r = .ok archive) :
        d'.Leaves ((Call.writeAudit form).trace d) 1 { d' with archive } :=
      leaves_append (Set.mem_singleton_iff.mpr hentry) happend
    exact (frame_leaves _).leads_answerWriteAudit hwritten d
  | decide form => exact (frame_untouched.leads_pure (n := 0) _ d).leaves
  | validate text => exact (frame_untouched.leads_read _ _ d).leaves
  | transition state event => exact (frame_untouched.leads_answerTransition state event d).leaves
  | checkQuota form => exact (frame_untouched.leads_answerCheck form d).leaves
  | quotaStatus name => exact (frame_untouched.leads_answerStatus name d).leaves
  | products => exact (frame_untouched.leads_read _ _ d).leaves
  | product id => exact (frame_untouched.leads_answerProduct id d).leaves
  | report start stop => exact (frame_untouched.leads_answerReport start stop d).leaves
  | trail conversation => exact (frame_untouched.leads_answerTrail conversation d).leaves
  | health => exact (frame_untouched.leads_pure (n := 0) _ d).leaves

theorem leaves_serve (d : Desk) (r : Request) :
    d.Leaves (r.trace d) 1 ((serve quiet r).run d).2 := by
  unfold Request.trace
  cases hcall : Call.ofRequest r with
  | error m =>
    rw [serve_of_misfit hcall]
    exact ((frame_untouched.leads_refuse m).map r.shape d).leaves
  | ok call =>
    rw [run_serve_of_call hcall]
    exact leaves_answer d call

/-- The endpoints that are there to be read. -/
def Endpoint.isRead : Endpoint → Bool
  | .quotaStatus | .products | .product _ | .report | .trail _ | .health => true
  | _ => false

theorem isRead_of_get : ∀ route ∈ Route.all, route.method = "GET" →
    ∀ names, (route.endpoint names).isRead = true := by
  simp [Route.all, Endpoint.isRead]

theorem Call.trace_of_isRead {e : Endpoint} {query : Table String} {content : Option String}
    {call : Call} (h : Call.ofEndpoint e query content = .ok call) (hread : e.isRead = true)
    (d : Desk) : call.trace d = {} := by
  cases e with
  | report =>
    unfold Call.ofEndpoint at h
    dsimp only at h
    cases hbounds : readQuery query _ with
    | error m =>
      rw [hbounds] at h
      cases h
    | ok bounds =>
      rw [hbounds] at h
      cases h
      rfl
  | quotaStatus => cases h; rfl
  | products => cases h; rfl
  | product id => cases h; rfl
  | trail conversation => cases h; rfl
  | health => cases h; rfl
  | _ => cases hread

/-- A request that only asks has no trace. -/
theorem Request.trace_of_get {r : Request} (hget : r.verb = "GET") (d : Desk) :
    r.trace d = {} := by
  unfold Request.trace
  cases hcall : Call.ofRequest r with
  | error m => rfl
  | ok call =>
    obtain ⟨route, hroute, hmethod, names, query, hcall⟩ := route_of_ofRequest hcall
    exact Call.trace_of_isRead hcall (isRead_of_get route hroute (hmethod.trans hget) names) d

/-- An entry that is answered with its record is in a record that is kept. -/
theorem append_of_answerWriteAudit {form : AuditForm} {a : Answer} {after : Desk}
    (hrun : (answerWriteAudit form).run d = (.ok a, after)) (hok : ¬ a.IsError) :
    ∃ record : Audit.Record, record.toEntry = form.entry ∧
      d.archive.append record = .ok after.archive := by
  have hmake := run_makeRecord (d := d) form.entry form.time
  unfold answerWriteAudit at hrun
  cases hstamp : d.stamp form.time with
  | error e =>
    rw [hstamp] at hmake
    rw [Act.run_bind_error hmake] at hrun
    cases hrun
  | ok u =>
    let record : Audit.Record :=
      { toEntry := form.entry, id := Audit.idText d.numbered.lastId, time := u }
    rw [hstamp] at hmake
    rw [Act.run_bind_ok hmake] at hrun
    refine ⟨record, rfl, ?_⟩
    cases hclock : d.clock.toUtc with
    | error e =>
      obtain ⟨later, hkeep⟩ := run_keepRecord_unread (d := d.numbered) hclock record
      rw [Act.run_bind_error hkeep] at hrun
      cases hrun
    | ok t =>
      cases happend : d.archive.append record with
      | error e =>
        have hkeep := run_keepRecord_error (d := d.numbered) hclock happend
        rw [Act.run_bind_ok hkeep] at hrun
        cases hrun
        exact absurd (show 400 ≤ 503 by decide) hok
      | ok archive =>
        have hkeep := run_keepRecord_ok (d := d.numbered) hclock happend
        rw [Act.run_bind_ok hkeep] at hrun
        cases hrun
        rfl

/-- A request that does not fail leaves the trace of its call and nothing more; one that only asks
leaves none, and an entry that is sent in is in one record more. -/
theorem leaves_of_not_fails {d : Desk} {r : Request} (hserved : ¬ r.Fails d) :
    let after := ((serve quiet r).run d).2
    d.Leaves (r.trace d) 1 after ∧ (r.verb = "GET" → r.trace d = {}) ∧
      ∀ form, Call.ofRequest r = .ok (.writeAudit form) →
        ∃ record : Audit.Record, record.toEntry = form.entry ∧
          d.archive.append record = .ok after.archive := by
  intro after
  refine ⟨leaves_serve d r, fun hget => Request.trace_of_get hget d, fun form hcall => ?_⟩
  obtain ⟨a, ha, hok⟩ : ∃ a, ((serve quiet r).run d).1 = .ok a ∧ ¬ a.IsError := by
    simpa [Request.Fails] using hserved
  have hrun : (answerWriteAudit form).run d = (.ok a, after) := by
    rw [← ha]
    exact (run_serve_of_call hcall quiet d).symm
  exact append_of_answerWriteAudit hrun hok

/-- A greeting counts a message and is recorded, and it changes nothing of another tenant or another
conversation. -/
theorem leaves_of_not_fails_greeting :
    let noon : Timestamp := ⟨738000 * Timestamp.day + 43200 * Timestamp.second, some 0⟩
    let d : Desk := .new {} none { audit := .memory [] } noon
    let greeting : Request :=
      { method := "POST", target := "/api/v1/cycle"
        content := some "\x7b\"conversation_id\": \"chat\", \"message\": \"Bonjour\"\x7d" }
    let after := ((serve quiet greeting).run d).2
    ¬ greeting.Fails d ∧ d.Leaves (greeting.trace d) 1 after := by
  intro noon d greeting after
  have hserved : ¬ greeting.Fails d := by decide +kernel
  exact ⟨hserved, (leaves_of_not_fails hserved).1⟩

end Http

end SalesDesk
