import SalesDesk.Proofs.Desk.Passing
import SalesDesk.Proofs.Desk.Session
import SalesDesk.Proofs.Desk.Trace

/-!
# Desks that can be reached

A process is launched over an archive, and then requests, passes and restarts follow one another in
a world that changes; the limits of a tenant may be configured as well. In all that is reached so
the messages that are counted of a day fit into a word or are within their limit, since a message
is only counted below the limit and a row holds no larger number. So there is a pause for every send.
-/

namespace SalesDesk

open Quota

namespace Quota.Account

variable {a b : Account} {x : Send}

/-- The messages counted of a day fit into a word, or are within their limit. -/
def InRange (a : Account) : Prop :=
  (a.snapshot.messagesToday.natAbs : Int) ≤ max (Word.bound 64) a.limits.messagesPerDay

theorem InRange.exists_delay (h : a.InRange) (base : Int) : ∃ pause, a.delay base = .ok pause := by
  cases hdelay : a.delay base with
  | ok pause => exact ⟨pause, rfl⟩
  | error fault => exact absurd h (not_le.mpr (beyond_of_delay_error hdelay))

/-- A send is counted below the limits only. -/
theorem InRange.count (h : a.InRange) (hcan : x.can a = true) :
    (a.withSnapshot (x.count a.snapshot)).InRange := by
  have hvalue := Gauge.value_count .messagesToday x a.snapshot
  have hbelow := (Gauge.can_iff x a).mp hcan .messagesToday
  simp only [Gauge.value, Gauge.limit] at hvalue hbelow
  unfold InRange at h ⊢
  change ((x.count a.snapshot).messagesToday.natAbs : Int) ≤ max _ a.limits.messagesPerDay
  rw [hvalue]
  split
  · rename_i hcounts
    have hlimit := hbelow hcounts
    omega
  · rwa [Int.add_zero]

theorem InRange.of_renewed {resets : List Reset} (h : a.InRange) (hlimits : b.limits = a.limits)
    (hb : b.snapshot = Usage.renewed a.snapshot resets) : b.InRange := by
  have hvalue := Gauge.value_renewed .messagesToday a.snapshot resets
  simp only [Gauge.value] at hvalue
  unfold InRange at h ⊢
  rw [hb, hlimits, hvalue]
  split
  · exact le_max_of_le_left (by decide)
  · exact h

theorem InRange.applyDue (h : a.InRange) (t : Timestamp) : (a.applyDue t).2.InRange := by
  unfold Account.applyDue
  cases hdue : a.usage.applyDue t with
  | error e => exact h
  | ok result =>
    obtain ⟨usage, applied⟩ := result
    obtain ⟨-, hsnapshot, -⟩ := Usage.applyDue_ok hdue
    exact h.of_renewed rfl hsnapshot

end Quota.Account

namespace Archive

/-- The messages of a day in a row fit into a word. -/
def UsageRow.InRange (r : UsageRow) : Prop := (r.messagesToday.natAbs : Int) ≤ Word.bound 64

theorem UsageEntry.messagesToday_of_row? {e : UsageEntry} {t : Timestamp} {row : UsageRow}
    (h : e.row? t = some row) : e.messagesToday = some row.messagesToday := by
  unfold row? at h
  split at h
  · rename_i htoday _ _ _ _
    cases h
    exact htoday
  · cases h

theorem natAbs_getD_le {n : Option Int} (h : n.any UsageEntry.isTooLarge = false) :
    ((n.getD 0).natAbs : Int) ≤ Word.bound 64 := by
  cases n with
  | none => decide
  | some n =>
    have hfits : Word.fits 64 n = true := by simpa [UsageEntry.isTooLarge] using h
    have hbounds := of_decide_eq_true hfits
    simp only [Option.getD_some]
    omega

/-- A counter that does not fit is not saved. -/
theorem inRange_of_saveUsage {a kept : Archive} {tenant : String} {e : UsageEntry} {t : Timestamp}
    (h : a.saveUsage tenant e t = .ok kept) :
    ∃ row : UsageRow, kept = { a with usages := a.usages.put tenant row } ∧ row.InRange := by
  have hwrite := write_of_whenInOrder h
  dsimp only at hwrite
  split at hwrite
  · cases hwrite
  · rename_i hsmall
    have hfits : e.messagesToday.any UsageEntry.isTooLarge = false := by
      have hall : (e.counters.any fun c => c.2.any UsageEntry.isTooLarge) = false := by
        simpa using hsmall
      exact Bool.eq_false_iff.mpr (List.any_eq_false.mp hall _ (List.mem_cons_self ..))
    split at hwrite
    · cases hwrite
    · rename_i row hrow
      cases hwrite
      have htoday := UsageEntry.messagesToday_of_row? hrow
      have hsame : row.messagesToday = e.messagesToday.getD 0 := by
        split at htoday
        · exact (Option.some.inj htoday).symm
        · have hentry : e.messagesToday = some row.messagesToday := htoday
          rw [hentry, Option.getD_some]
      refine ⟨row, rfl, ?_⟩
      unfold UsageRow.InRange
      rw [hsame]
      exact natAbs_getD_le hfits

end Archive

namespace Desk

variable {d : Desk} {tenant : String} {a : Account} {turn : Turn}

/-- The messages counted of a day are in range for every tenant, and so are those of every row. -/
structure InRange (d : Desk) : Prop where
  counted : ∀ tenant, ((d.ledger.counters tenant).messagesToday.natAbs : Int) ≤
    max (Word.bound 64) (d.ledger.limitsOf tenant).messagesPerDay
  saved : ∀ tenant row, d.archive.usages.find? tenant = some row → row.InRange

theorem InRange.account (h : d.InRange) {now : Except TimeError Timestamp}
    (ha : d.ledger.account tenant now = .ok a) : a.InRange := by
  have hcounted := h.counted tenant
  rwa [Ledger.counters_of_account ha, Ledger.limitsOf_of_account ha] at hcounted

theorem InRange.withAccount (h : d.InRange) (ha : a.InRange) : (d.withAccount tenant a).InRange where
  counted other := by
    by_cases hother : tenant = other
    · subst hother
      rw [counters_withAccount, limitsOf_withAccount]
      exact ha
    · have hsame : (d.withAccount tenant a).ledger.accounts.find? other =
          d.ledger.accounts.find? other := Table.find?_put_of_ne _ _ hother
      have hcounted := h.counted other
      unfold Ledger.counters Ledger.limitsOf at hcounted ⊢
      rw [hsame]
      exact hcounted
  saved := h.saved

theorem InRange.saveUsage {archive : Archive} {e : Archive.UsageEntry} {t : Timestamp}
    (h : d.InRange) (hsave : d.archive.saveUsage tenant e t = .ok archive) :
    ({ d with archive } : Desk).InRange := by
  obtain ⟨row, rfl, hrow⟩ := Archive.inRange_of_saveUsage hsave
  refine ⟨h.counted, fun other found hfound => ?_⟩
  by_cases hother : tenant = other
  · subst hother
    have hsame : row = found := by simpa [Table.find?_put_self] using hfound
    exact hsame ▸ hrow
  · exact h.saved other found ((Table.find?_put_of_ne _ _ hother).symm.trans hfound)

/-- The clock and the replaced processes stay, and counters that were in range stay in range. -/
structure StaysInRange (d after : Desk) : Prop where
  steady : d.Steady after
  inRange : d.InRange → after.InRange

theorem staysInRange_of_eq {after : Desk} (hsteady : d.Steady after)
    (hledger : after.ledger = d.ledger) (husages : after.archive.usages = d.archive.usages) :
    d.StaysInRange after :=
  ⟨hsteady, fun h => ⟨fun tenant => by rw [hledger]; exact h.counted tenant,
    fun tenant row hrow => h.saved tenant row (husages ▸ hrow)⟩⟩

theorem frame_staysInRange : Frame fun _ => StaysInRange where
  steady h := h.steady
  refl _ := ⟨⟨rfl, rfl⟩, id⟩
  mono _ h := h
  trans h hlast :=
    ⟨frame_steady.trans (m := 0) (n := 0) h.steady hlast.steady,
      fun hd => hlast.inRange (h.inRange hd)⟩
  unnoticed _ _ _ _ _ := staysInRange_of_eq ⟨rfl, rfl⟩ rfl rfl
  entered ha := ⟨⟨rfl, rfl⟩, fun h => h.withAccount (h.account ha)⟩
  touched _ _ := staysInRange_of_eq ⟨rfl, rfl⟩ rfl rfl

/-! ## Turns -/

theorem staysInRange_saveUsage {archive : Archive} {e : Archive.UsageEntry} {t : Timestamp}
    (h : d.archive.saveUsage tenant e t = .ok archive) : d.StaysInRange { d with archive } :=
  ⟨⟨rfl, rfl⟩, fun hd => hd.saveUsage h⟩

theorem allows_staysInRange (r : Incoming) : Frame.Allows (fun _ => StaysInRange) r where
  counted _ _ ha hcan :=
    ⟨⟨rfl, rfl⟩, fun h => h.withAccount ((h.account ha).count (x := .message) hcan)⟩
  moved _ _ := staysInRange_of_eq ⟨rfl, rfl⟩ rfl rfl
  stopped _ := staysInRange_of_eq ⟨rfl, rfl⟩ rfl rfl
  recorded _ _ _ _ _ happend := by
    obtain ⟨audit, -, rfl⟩ := Archive.append_eq_ok happend
    exact staysInRange_of_eq ⟨rfl, rfl⟩ rfl rfl

/-- What leaves the counters and the rows of usages alone keeps them in range. -/
theorem Leaves.inRange {f : Trace} {n : Nat} {after : Desk} (h : d.Leaves f n after)
    (hcounters : f.counters = ∅) (husages : f.usages = ∅) (hd : d.InRange) : after.InRange where
  counted tenant := by
    have hcounter := h.counter tenant .messagesToday (hcounters ▸ Set.notMem_empty _)
    simp only [Gauge.value] at hcounter
    rw [hcounter, h.limits]
    exact hd.counted tenant
  saved tenant row hrow :=
    hd.saved tenant row ((h.usage tenant (husages ▸ Set.notMem_empty _)).symm.trans hrow)

theorem staysInRange_reset (kind : Reset) (name : Option String) (d : Desk) :
    d.StaysInRange ((Http.answerReset kind name).run d).2 := by
  apply frame_staysInRange.leads_answerReset
  · intro d' a b ha hlimits hsnapshot
    have hrenewed : b.snapshot = Usage.renewed a.snapshot [kind] := hsnapshot
    exact ⟨⟨rfl, rfl⟩, fun h => h.withAccount ((h.account ha).of_renewed hlimits hrenewed)⟩
  · exact fun _ _ _ _ => staysInRange_saveUsage

theorem inRange_answer (hd : d.InRange) (call : Http.Call) :
    ((Http.answer quiet call).run d).2.InRange := by
  have hleaves := Http.leaves_answer d call
  cases call with
  | cycle form =>
    have hled : d.StaysInRange ((Http.answerCycle quiet form).run d).2 := by
      apply frame_staysInRange.leads_answerCycle fun _ => allows_staysInRange _
      · exact fun _ _ _ _ => staysInRange_saveUsage
      · intro d' e t archive hsave
        obtain ⟨row, rfl⟩ := Archive.saveStatus_eq_ok hsave
        exact staysInRange_of_eq ⟨rfl, rfl⟩ rfl rfl
    exact hled.inRange hd
  | recordSend form =>
    have hled : d.StaysInRange ((Http.answerRecord form).run d).2 := by
      apply frame_staysInRange.leads_answerRecord
      · exact fun _ _ _ ha hcan => ⟨⟨rfl, rfl⟩, fun h => h.withAccount ((h.account ha).count hcan)⟩
      · exact fun _ _ _ _ => staysInRange_saveUsage
    exact hled.inRange hd
  | resetDaily name => exact (staysInRange_reset .daily name d).inRange hd
  | resetWeekly name => exact (staysInRange_reset .weekly name d).inRange hd
  | _ => exact hleaves.inRange rfl rfl hd

theorem inRange_request (hd : d.InRange) (r : Http.Request) : (d.step (.request r)).InRange := by
  cases hcall : Http.Call.ofRequest r with
  | error m =>
    have hleaves := Http.leaves_serve d r
    unfold Http.Request.trace at hleaves
    rw [hcall] at hleaves
    exact hleaves.inRange rfl rfl hd
  | ok call =>
    have hserve := Http.run_serve_of_call hcall quiet d
    rw [step, hserve]
    exact inRange_answer hd call

theorem staysInRange_due (tenant : String) (t : Timestamp) (d : Desk) (a : Account)
    (ha : d.ledger.account tenant d.clock.toUtc = .ok a) :
    d.StaysInRange (d.withAccount tenant (a.applyDue t).2) :=
  ⟨⟨rfl, rfl⟩, fun h => h.withAccount ((h.account ha).applyDue t)⟩

/-- A process that starts resumes from rows that are in range. -/
theorem inRange_start (hd : d.WellFormed) (h : d.InRange) : (start.run d).2.InRange := by
  have hstarted : d.StaysInRange (start.run d).2 := by
    apply frame_staysInRange.started
    · exact fun _ _ _ => staysInRange_of_eq ⟨rfl, rfl⟩ rfl rfl
    · intro e he d' a _
      have hrow := h.saved e.1 e.2 ((Table.find?_eq_some_iff hd.archive.usages).mpr he)
      exact ⟨⟨rfl, rfl⟩, fun h => h.withAccount (le_max_of_le_left hrow)⟩
    · exact staysInRange_due
    · exact fun _ _ _ _ _ => staysInRange_saveUsage
    · exact fun _ _ => staysInRange_of_eq ⟨rfl, rfl⟩ rfl rfl
  exact hstarted.inRange h

/-- A process that knows no tenant has counted nothing. -/
theorem inRange_of_unknown (haccounts : d.ledger.accounts = [])
    (hrows : ∀ tenant row, d.archive.usages.find? tenant = some row → row.InRange) : d.InRange := by
  refine ⟨fun tenant => ?_, hrows⟩
  have hzero : d.ledger.counters tenant = {} := by
    unfold Ledger.counters
    rw [haccounts]
    rfl
  rw [hzero]
  exact le_max_of_le_left (by decide)

theorem inRange_step (hd : d.WellFormed) (h : d.InRange) (turn : Turn) : (d.step turn).InRange := by
  cases turn with
  | request r => exact inRange_request h r
  | world w => exact ⟨h.counted, h.saved⟩
  | pass =>
    have hpassed : (fire true).Leads StaysInRange :=
      frame_staysInRange.leads_fire (fun _ _ _ _ _ => staysInRange_saveUsage) staysInRange_due true
    exact (hpassed d).inRange h
  | restart => exact inRange_start (wellFormed_restarted hd) (inRange_of_unknown rfl h.saved)

/-! ## What can be reached -/

theorem run_configure {t : Timestamp} (ha : d.ledger.account tenant d.clock.toUtc = .ok a)
    (hclock : d.clock.toUtc = .ok t) (limits : Limits) : (configure tenant limits).run d =
      (.ok (), (d.withAccount tenant { a with limits }).logged t [configuredNotice tenant]) := by
  unfold configure
  rw [Act.run_bind_ok (run_onAccount ha _)]
  exact run_notify (d := d.withAccount tenant { a with limits }) hclock _

/-- The desks that can be reached. A process is launched over an archive whose rows are in range,
whatever its settings. Other limits may be configured for a tenant, also ones that its counters have
passed already, unless neither they nor a word could hold what is counted. -/
inductive Reachable : Desk → Prop
  | launched (settings : Settings) (given : Option Generation.Generator) {archive : Archive}
      (w : World) (wellFormed : archive.WellFormed)
      (inRange : ∀ tenant row, archive.usages.find? tenant = some row → row.InRange) :
      Reachable (launched settings given archive w)
  | turned {d : Desk} (reached : Reachable d) (turn : Turn) : Reachable (d.step turn)
  | configured {d : Desk} (reached : Reachable d) (tenant : String) (limits : Limits)
      (inRange : ((d.ledger.counters tenant).messagesToday.natAbs : Int) ≤
        max (Word.bound 64) limits.messagesPerDay) :
      Reachable ((configure tenant limits).run d).2

theorem Reachable.wellFormed_inRange (h : Reachable d) : d.WellFormed ∧ d.InRange := by
  induction h with
  | launched settings given w hwf hrows =>
    refine ⟨wellFormed_launched settings given w hwf, ?_⟩
    have hnew : ((Desk.new settings given _ w.clock).inWorld w).WellFormed :=
      ⟨w.readable, wellFormed_new rfl, hwf.usages, hwf.conversations, hwf.lastReset⟩
    exact inRange_start hnew (inRange_of_unknown rfl hrows)
  | turned reached turn ih => exact ⟨wellFormed_step ih.1 turn, inRange_step ih.1 ih.2 turn⟩
  | @configured d reached tenant limits hrange ih =>
    obtain ⟨hwf, hin⟩ := ih
    obtain ⟨t, hclock⟩ := hwf.clock
    obtain ⟨a, ha, hutc⟩ := exists_account_of_wellFormed hwf tenant
    rw [Ledger.counters_of_account ha] at hrange
    have hput : d.Within { tenants := {tenant} } (d.withAccount tenant { a with limits }) :=
      within_withAccount hwf hutc fun hout => absurd rfl hout
    have hconfigured : (d.withAccount tenant { a with limits }).InRange := hin.withAccount hrange
    rw [run_configure ha hclock]
    exact ⟨(within_logged (f := {}) hput.wellFormed t _).wellFormed,
      hconfigured.counted, hconfigured.saved⟩

end Desk

end SalesDesk
