import SalesDesk.Proofs.Desk.Reaching
import SalesDesk.Proofs.Except

/-!
# The check foretells the record

A send that is checked and one that is recorded are judged in two calls, and their counters are told
in two more. On every desk that can be reached they agree: what the check says is what the record
does, and what the record tells is what the status tells afterwards.
-/

namespace SalesDesk

open Quota Desk

namespace Quota

variable {a : Account}

/-- Where the clock and the last reset can be read, so can the resets that are needed. -/
theorem Account.exists_needsResets {now : Timestamp} (hnow : now.IsUtc)
    (hlast : a.usage.lastReset.IsUtc) :
    ∃ daily weekly, a.needsResets now = .ok (daily, weekly) := by
  unfold Account.needsResets
  rw [Usage.needsDaily_eq hnow hlast, Usage.needsWeekly_eq hnow hlast]
  exact ⟨_, _, rfl⟩

end Quota

namespace Http

variable {d : Desk} {t : Timestamp} {r : Request} {name : Option String} {form : SendForm}
  {media : Option Media} {a : Account}

/-- A member of what a request is answered with, where this is a success. -/
def Request.shown? (r : Request) (d : Desk) (member : String) : Option Json :=
  match ((serve quiet r).run d).1 with
  | .ok (.body 200 json) => json.get? member
  | _ => none

/-- An answer lets a send go out or not, and tells a pause for one that may. -/
def Request.Judges (r : Request) (d : Desk) (member : String) (can : Bool) : Prop :=
  r.shown? d member = some (.bool can) ∧
    ∃ pause, r.shown? d "delay_seconds" = some (optionalInt pause) ∧ pause.isSome = can

/-- An answer tells the messages of the day and of the week. -/
def Request.Counts (r : Request) (d : Desk) (today week : Int) : Prop :=
  r.shown? d "messages_today" = some (.int today) ∧
    r.shown? d "messages_this_week" = some (.int week)

theorem Request.Counts.unique {today week today' week' : Int} (h : r.Counts d today week)
    (h' : r.Counts d today' week') : today = today' ∧ week = week' := by
  have htoday := h.1.symm.trans h'.1
  have hweek := h.2.symm.trans h'.2
  simpa using And.intro htoday hweek

theorem tenantOf_congr {after : Desk} (h : after.settings = d.settings) (name : Option String) :
    tenantOf after name = tenantOf d name := by
  unfold tenantOf
  rw [h]

/-- The send that is meant by a kind. -/
def sendOf (media : Option Media) : Send := media.elim .message .media

theorem shown?_of_run {json : Json} {after : Desk}
    (h : (serve quiet r).run d = (.ok (.ok json), after)) (member : String) :
    r.shown? d member = json.get? member := by
  unfold Request.shown?
  rw [h]
  rfl

theorem counts_of_status (hd : d.WellFormed) (hcall : Call.ofRequest r = .ok (.quotaStatus name))
    (ha : d.ledger.account (tenantOf d name) d.clock.toUtc = .ok a) :
    r.Counts d a.snapshot.messagesToday a.snapshot.messagesThisWeek := by
  obtain ⟨t, hclock⟩ := hd.clock
  have hlook := Act.run_look (fun d : Desk => tenantOf d name) d
  have hutc : a.usage.lastReset.IsUtc := hd.ledger.account hclock ha
  obtain ⟨daily, weekly, hneeds⟩ :=
    Account.exists_needsResets (Timestamp.toUtc_of_toUtc hclock) hutc
  have hread : (d.withAccount (tenantOf d name) a).clock.toUtc = .ok t := hclock
  have hneed := run_needsResets hread (account_withAccount _) hneeds
  have hrun : (serve quiet r).run d = (.ok (.ok (.obj
      ((a.usage.fields.map fun f => (f.1, Json.int f.2)) ++
        [("last_reset", .str a.usage.lastReset.iso), ("needs_daily_reset", .bool daily),
          ("needs_weekly_reset", .bool weekly)]))),
      (d.withAccount (tenantOf d name) a).withAccount (tenantOf d name) a) := by
    rw [run_serve_of_call hcall]
    change (answerStatus name).run d = _
    unfold answerStatus usage
    rw [Act.run_bind_ok hlook, Act.run_bind_ok (run_account ha _), Act.run_bind_ok hneed]
    rfl
  exact ⟨shown?_of_run hrun _, shown?_of_run hrun _⟩

/-- The pause is asked for only where a send may go out. -/
private theorem run_answerCheck (hmedia : mediaOf? form.kind = some media) :
    (answerCheck form).run d = (do
      let can ← account (tenantOf d form.tenant) (sendOf media).can
      let pause ← if can then some <$> pause (tenantOf d form.tenant) else pure none
      return .ok (.obj [("can_send", .bool can), ("delay_seconds", optionalInt pause)])
      : Act Answer).run d := by
  have hlook := Act.run_look (fun d : Desk => tenantOf d form.tenant) d
  unfold answerCheck
  rw [Act.run_bind_ok hlook, hmedia]
  cases media <;> rfl

theorem judges_of_check (hcall : Call.ofRequest r = .ok (.checkQuota form))
    (hmedia : mediaOf? form.kind = some media)
    (ha : d.ledger.account (tenantOf d form.tenant) d.clock.toUtc = .ok a) (hrange : a.InRange) :
    r.Judges d "can_send" ((sendOf media).can a) ∧
      (d.step (.request r)).ledger.accounts.find? (tenantOf d form.tenant) = some a := by
  let tenant := tenantOf d form.tenant
  let entered := d.withAccount tenant a
  have hrun : ∃ pause after, (serve quiet r).run d = (.ok (.ok (.obj
      [("can_send", .bool ((sendOf media).can a)), ("delay_seconds", optionalInt pause)])), after) ∧
      pause.isSome = (sendOf media).can a ∧ after.ledger.accounts.find? tenant = some a := by
    rw [run_serve_of_call hcall]
    change ∃ pause after, (answerCheck form).run d = _ ∧ _
    rw [run_answerCheck hmedia, Act.run_bind_ok (run_account ha _)]
    cases (sendOf media).can a with
    | false => exact ⟨none, entered, rfl, rfl, find?_withAccount ..⟩
    | true =>
      obtain ⟨pause, hpause⟩ := hrange.exists_delay entered.base
      have hknown : entered.ledger.account tenant entered.clock.toUtc = .ok a :=
        account_withAccount _
      have hpaused := run_pause hknown
      rw [hpause] at hpaused
      refine ⟨some pause, entered.drawn.withAccount tenant a, ?_, rfl, find?_withAccount ..⟩
      rw [if_pos rfl, Act.run_bind_ok]
      · rfl
      · rw [Act.run_map, hpaused]
        rfl
  obtain ⟨pause, after, hserve, hsome, hfound⟩ := hrun
  refine ⟨⟨shown?_of_run hserve _, pause, shown?_of_run hserve _, hsome⟩, ?_⟩
  rw [step, hserve]
  exact hfound

/-- The account after a send: it is counted where it may go out. -/
def afterSend (x : Send) (a : Account) : Account :=
  if x.can a then a.withSnapshot (x.count a.snapshot) else a

theorem judges_of_record (hd : d.WellFormed) (hcall : Call.ofRequest r = .ok (.recordSend form))
    (hmedia : mediaOf? form.kind = some media)
    (ha : d.ledger.account (tenantOf d form.tenant) d.clock.toUtc = .ok a) (hrange : a.InRange) :
    let b := afterSend (sendOf media) a
    r.Judges d "recorded" ((sendOf media).can a) ∧
      r.Counts d b.snapshot.messagesToday b.snapshot.messagesThisWeek ∧
      (d.step (.request r)).ledger.accounts.find? (tenantOf d form.tenant) = some b := by
  intro b
  let tenant := tenantOf d form.tenant
  have hrun : ∃ pause after, (serve quiet r).run d = (.ok (.ok (sendJson
      ⟨(sendOf media).can a, a.snapshot, b.snapshot, pause⟩)), after) ∧
      pause.isSome = (sendOf media).can a ∧ after.ledger.accounts.find? tenant = some b := by
    rw [run_serve_of_call hcall]
    change ∃ pause after, (answerRecord form).run d = _ ∧ _
    rw [run_answerRecord, hmedia]
    change ∃ pause after,
      (trySend tenant (sendOf media) >>= saveSend tenant).run d = _ ∧ _
    obtain ⟨t, hclock⟩ := hd.clock
    cases hcan : (sendOf media).can a with
    | false =>
      have hsame : b = a := if_neg (by simp [hcan])
      have hrefused := run_trySend_refused ha hcan hclock
      rw [hsame, Act.run_bind_ok hrefused]
      exact ⟨none, _, rfl, rfl, find?_withAccount ..⟩
    | true =>
      have hcounted : b = a.withSnapshot ((sendOf media).count a.snapshot) := if_pos hcan
      obtain ⟨pause, hpause⟩ := hrange.exists_delay d.base
      have hadmitted := run_trySend_admitted ha hcan hpause
      have hsend := keeps_trySend (f := { tenants := {tenant} }) rfl (sendOf media) d hd
      rw [hadmitted] at hsend
      obtain ⟨after, hend, -, hafter, -⟩ := run_saveSend hsend.wellFormed tenant
        ⟨true, a.snapshot, (sendOf media).count a.snapshot, some pause⟩
      rw [hcounted, Act.run_bind_ok hadmitted]
      have hsaved := hafter { usages := {tenant} } rfl
      exact ⟨some pause, after, hend, rfl,
        hsaved.known (Set.notMem_empty _) (find?_withAccount ..)⟩
  obtain ⟨pause, after, hserve, hsome, hfound⟩ := hrun
  refine ⟨⟨shown?_of_run hserve _, pause, shown?_of_run hserve _, hsome⟩,
    ⟨shown?_of_run hserve _, shown?_of_run hserve _⟩, ?_⟩
  rw [step, hserve]
  exact hfound

theorem value_afterSend (g : Gauge) (x : Send) (a : Account) :
    g.value (afterSend x a).snapshot =
      g.value a.snapshot + if x.can a = true ∧ g.counts x = true then 1 else 0 := by
  unfold afterSend
  cases x.can a with
  | false => simp
  | true =>
    simp only [if_true, true_and]
    exact g.value_count x a.snapshot

theorem exists_media_of_mem {kind : String} (h : kind ∈ ["text", "image", "video"]) :
    ∃ media, mediaOf? kind = some media ∧ (sendOf media = .message ↔ kind = "text") := by
  simp only [List.mem_cons, List.not_mem_nil, or_false] at h
  rcases h with rfl | rfl | rfl
  · exact ⟨none, by decide⟩
  · exact ⟨some .image, by decide⟩
  · exact ⟨some .video, by decide⟩

/-- The check of a send lets it go out exactly when the record right after it does, and only a text
that may go out is counted, in what the record tells as in what the status tells then. Between the
requests the world may change, its clock and its draws included. -/
theorem check_foretells_record (hd : d.Reachable) {check record status : Request}
    {asked sent : SendForm} {name : Option String} (between later : World)
    (hcheck : Call.ofRequest check = .ok (.checkQuota asked))
    (hrecord : Call.ofRequest record = .ok (.recordSend sent))
    (hstatus : Call.ofRequest status = .ok (.quotaStatus name))
    (hkind : asked.kind ∈ ["text", "image", "video"]) (hsame : sent.kind = asked.kind)
    (hsent : tenantOf d sent.tenant = tenantOf d asked.tenant)
    (hname : tenantOf d name = tenantOf d asked.tenant) :
    let checked := d.through [.request check, .world between]
    let recorded := checked.through [.request record, .world later]
    ∃ can today week, status.Counts d today week ∧ status.Counts checked today week ∧
      check.Judges d "can_send" can ∧ record.Judges checked "recorded" can ∧
      let more := if can = true ∧ asked.kind = "text" then 1 else 0
      record.Counts checked (today + more) (week + more) ∧
        status.Counts recorded (today + more) (week + more) := by
  intro checked recorded
  obtain ⟨hwf, hrange⟩ := hd.wellFormed_inRange
  have hturned : checked.Reachable := (hd.turned (.request check)).turned (.world between)
  obtain ⟨hwellChecked, hrangeChecked⟩ := hturned.wellFormed_inRange
  have hwellRecorded : recorded.WellFormed :=
    ((hturned.turned (.request record)).turned (.world later)).wellFormed_inRange.1
  have hchecked : checked.settings = d.settings := (within_request hwf check).settings
  have hrecorded : recorded.settings = d.settings :=
    (within_request hwellChecked record).settings.trans hchecked
  obtain ⟨media, hmedia, htext⟩ := exists_media_of_mem hkind
  obtain ⟨a, ha, -⟩ := exists_account_of_wellFormed hwf (tenantOf d asked.tenant)
  -- The check leaves the account that it has read, and the record counts from there.
  obtain ⟨hasks, hknown⟩ := judges_of_check hcheck hmedia ha (hrange.account ha)
  have hentered : checked.ledger.account (tenantOf d asked.tenant) checked.clock.toUtc = .ok a :=
    account_of_find? hknown _
  have hread : checked.ledger.account (tenantOf checked sent.tenant) checked.clock.toUtc = .ok a :=
    by rwa [tenantOf_congr hchecked, hsent]
  obtain ⟨hkeeps, htells, hcounted⟩ := judges_of_record hwellChecked hrecord (hsame ▸ hmedia) hread
    (hrangeChecked.account hread)
  rw [tenantOf_congr hchecked, hsent] at hcounted
  have hbefore := counts_of_status hwf hstatus (hname ▸ ha)
  have hbetween : status.Counts checked _ _ :=
    counts_of_status hwellChecked hstatus (by rwa [tenantOf_congr hchecked, hname])
  have hafter : status.Counts recorded _ _ := counts_of_status hwellRecorded hstatus
    (by rw [tenantOf_congr hrecorded, hname]; exact account_of_find? hcounted _)
  have htoday := value_afterSend .messagesToday (sendOf media) a
  have hweek := value_afterSend .messagesThisWeek (sendOf media) a
  simp only [Gauge.value, Gauge.counts, beq_iff_eq, htext] at htoday hweek
  rw [htoday, hweek] at htells hafter
  exact ⟨_, _, _, hbefore, hbetween, hasks, hkeeps, htells, hafter⟩

/-- The last message of a day may go out and is counted, and a further one may not. -/
theorem check_foretells_record_last :
    let noon : Timestamp := ⟨738000 * Timestamp.day + 43200 * Timestamp.second, some 0⟩
    let w : World := { clock := noon, readable := ⟨noon, rfl⟩ }
    let text : Option String := some "\x7b\"message_type\": \"text\"\x7d"
    let check : Request := { method := "POST", target := "/api/v1/quota/check", content := text }
    let record : Request := { method := "POST", target := "/api/v1/quota/record", content := text }
    let status : Request :=
      { method := "GET", target := "/api/v1/quota/status?tenant_id=default" }
    let d := ((configure "default" { messagesPerDay := 1 }).run
      (launched {} none { audit := .memory [] } w)).2
    let checked := d.through [.request check, .world w]
    let recorded := checked.through [.request record, .world w]
    let again := recorded.through [.request check, .world w]
    status.Counts d 0 0 ∧ check.Judges d "can_send" true ∧
      record.Judges checked "recorded" true ∧ record.Counts checked 1 1 ∧
      check.Judges recorded "can_send" false ∧ record.Judges again "recorded" false ∧
      status.Counts (again.through [.request record, .world w]) 1 1 := by
  intro noon w text check record status d checked recorded again
  have hcheck : Call.ofRequest check = .ok (.checkQuota ⟨"text", none⟩) := by decide +kernel
  have hrecord : Call.ofRequest record = .ok (.recordSend ⟨"text", none⟩) := by decide +kernel
  have hstatus : Call.ofRequest status = .ok (.quotaStatus (some "default")) := by decide +kernel
  have hd : d.Reachable := .configured
    (.launched {} none w (Archive.wellFormed_empty (.memory [])) nofun) _ _ (by decide +kernel)
  have hrecorded : recorded.Reachable :=
    (((hd.turned (.request check)).turned (.world w)).turned (.request record)).turned (.world w)
  have hname : tenantOf d (some "default") = tenantOf d none := by decide +kernel
  have hlater : tenantOf recorded (some "default") = tenantOf recorded none := by decide +kernel
  obtain ⟨can, today, week, hbefore, -, hasks, hkeeps, htells, hafter⟩ :=
    check_foretells_record hd w w hcheck hrecord hstatus (by decide) rfl rfl hname
  obtain ⟨can', today', week', hbefore', -, hasks', hkeeps', -, hafter'⟩ :=
    check_foretells_record hrecorded w w hcheck hrecord hstatus (by decide) rfl rfl hlater
  have hcan : can = true := by
    have hshown : (check.shown? d "can_send").any Json.truthy = true := by decide +kernel
    rwa [hasks.1] at hshown
  have hcan' : can' = false := by
    have hshown : (check.shown? recorded "can_send").any Json.truthy = false := by decide +kernel
    rwa [hasks'.1] at hshown
  have htoday : today = 0 := by
    have hshown : (status.shown? d "messages_today").any Json.truthy = false := by decide +kernel
    simpa [hbefore.1, Json.truthy] using hshown
  have hweek : week = 0 := by
    have hshown : (status.shown? d "messages_this_week").any Json.truthy = false := by
      decide +kernel
    simpa [hbefore.2, Json.truthy] using hshown
  subst hcan hcan' htoday hweek
  obtain ⟨rfl, rfl⟩ := hafter.unique hbefore'
  exact ⟨hbefore, hasks, hkeeps, htells, hasks', hkeeps', hafter'⟩

end Http

end SalesDesk
