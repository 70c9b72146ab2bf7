import SalesDesk.Proofs.Desk.Resuming
import SalesDesk.Proofs.Quota.Boundary

/-!
# Passes of the schedule

A pass applies to every tenant the resets whose boundaries were crossed, and no others. It then runs
a callback for each tenant that it has reset. Passes that follow each other come to the same counters
as the last of them alone, so neither a pass that is late nor one that is made twice is seen in the
counters.
-/

namespace SalesDesk

open Quota

namespace Quota

theorem Snapshot.eq_of_gauges {s t : Snapshot} (h : ∀ g : Gauge, g.value s = g.value t) : s = t := by
  obtain ⟨⟩ := s
  obtain ⟨⟩ := t
  have htoday := h .messagesToday
  have hweek := h .messagesThisWeek
  have himages := h .imagesToday
  have hvideos := h .videosThisWeek
  simp only [Gauge.value] at htoday hweek himages hvideos
  simp only [htoday, hweek, himages, hvideos]

namespace Usage

variable {u : Usage} {s t : Timestamp}

theorem value_due (u : Usage) (t : Timestamp) (g : Gauge) : g.value (u.due t).toSnapshot =
    if g.reset.period u.lastReset < g.reset.period t then 0 else g.value u.toSnapshot := by
  simp only [due, Gauge.value_renewed, mem_dueResets]

theorem dated_due (hu : u.lastReset.Dated) (ht : t.Dated) : (u.due t).lastReset.Dated := by
  unfold due
  split
  · exact hu
  · exact ht

/-- A pass in between does not show in the counters. -/
theorem due_due (h : s.instant ≤ t.instant) :
    ((u.due s).due t).toSnapshot = (u.due t).toSnapshot := by
  by_cases hnone : dueResets u.lastReset s = []
  · rw [due_of_none hnone]
  · apply Snapshot.eq_of_gauges
    intro g
    have hstamp : (u.due s).lastReset = s := if_neg hnone
    obtain ⟨r, hr⟩ := List.exists_mem_of_ne_nil _ hnone
    have hbefore := Reset.instant_lt_of_period_lt (mem_dueResets.mp hr)
    -- The pass in between has stamped a period that lies between the two others.
    have hfirst := g.reset.period_mono (Int.le_of_lt hbefore)
    have hsecond := g.reset.period_mono h
    rw [value_due, hstamp, value_due, value_due]
    split_ifs <;> omega

/-- Once the resets of a time are applied, none of them is due at that time. -/
theorem dueResets_due (u : Usage) (t : Timestamp) : dueResets (u.due t).lastReset t = [] := by
  by_cases hnone : dueResets u.lastReset t = []
  · rw [due_of_none hnone, hnone]
  · have hstamp : (u.due t).lastReset = t := if_neg hnone
    rw [hstamp]
    simp [dueResets]

end Usage

/-! ## Accounts after a pass -/

def Account.due (a : Account) (t : Timestamp) : Account := { a with usage := a.usage.due t }

theorem Account.renewed_due {a : Account} {t : Timestamp} (ha : a.usage.lastReset.Dated)
    (ht : t.Dated) : a.Renewed t (Usage.dueResets a.usage.lastReset t) (a.due t) := by
  obtain ⟨applied, after, hrun, hrenewed⟩ := Account.applyDue_renewed ha ht
  rw [Account.applyDue, Usage.applyDue_eq ht.toUtc_eq ha.toUtc_eq] at hrun
  cases hrun
  exact hrenewed

/-- After one pass and others the counters are those after the last pass alone. -/
theorem Account.snapshot_foldl_due {first : Timestamp} {rest : List Timestamp}
    (hmono : (first :: rest).Pairwise fun s t => s.instant ≤ t.instant) (a : Account) :
    (rest.foldl (fun a t => a.due t.inUtc) (a.due first.inUtc)).snapshot =
      (a.due ((first :: rest).getLast (List.cons_ne_nil first rest)).inUtc).snapshot := by
  induction rest generalizing first a with
  | nil => rfl
  | cons second others ih =>
    obtain ⟨hfirst, hrest⟩ := List.pairwise_cons.mp hmono
    have hlast := hfirst _ (List.getLast_mem (List.cons_ne_nil second others))
    rw [List.foldl_cons, ih hrest, List.getLast_cons (List.cons_ne_nil second others)]
    exact Usage.due_due (by simpa using hlast)

namespace Ledger

variable {accounts : Table Account} {tenant : String} {a : Account} {t : Timestamp}

/-- Every tenant has one account, and every last reset has a date in universal time. -/
structure Dated (l : Ledger) : Prop where
  names : l.accounts.names.Nodup
  lastReset : ∀ e ∈ l.accounts, e.2.usage.lastReset.Dated

def afterDue (accounts : Table Account) (t : Timestamp) : Table Account :=
  accounts.map fun e => (e.1, e.2.due t)

/-- The tenants with a due reset, each with its resets. -/
def dueOf (accounts : Table Account) (t : Timestamp) : Table (List Reset) :=
  (accounts.map fun e => (e.1, Usage.dueResets e.2.usage.lastReset t)).filter fun e => e.2 ≠ []

theorem dueOf_cons (name : String) (a : Account) (rest : Table Account) (t : Timestamp) :
    dueOf ((name, a) :: rest) t =
      if Usage.dueResets a.usage.lastReset t = [] then dueOf rest t
      else (name, Usage.dueResets a.usage.lastReset t) :: dueOf rest t := by
  by_cases hnone : Usage.dueResets a.usage.lastReset t = []
  · simp [dueOf, hnone]
  · simp [dueOf, hnone]

@[simp] theorem names_afterDue : (afterDue accounts t).names = accounts.names := by
  simp [afterDue, Table.names]

theorem find?_afterDue :
    (afterDue accounts t).find? tenant = (accounts.find? tenant).map fun a => a.due t := by
  induction accounts with
  | nil => rfl
  | cons e rest ih =>
    obtain ⟨name, a⟩ := e
    by_cases hname : name = tenant
    · simp [afterDue, Table.find?, hname]
    · have hrest : (afterDue rest t).find? tenant = _ := ih
      simp only [afterDue, Table.find?, List.map_cons, hname, if_false] at hrest ⊢
      exact hrest

theorem names_dueOf_sublist : (dueOf accounts t).names.Sublist accounts.names := by
  have hall : Table.names (accounts.map fun e => (e.1, Usage.dueResets e.2.usage.lastReset t)) =
      accounts.names := by
    simp [Table.names]
  rw [← hall]
  exact List.filter_sublist.map _

theorem mem_names_dueOf (hnodup : accounts.names.Nodup) : tenant ∈ (dueOf accounts t).names ↔
    ∃ a, accounts.find? tenant = some a ∧ Usage.dueResets a.usage.lastReset t ≠ [] := by
  simp only [Table.find?_eq_some_iff hnodup]
  simp [dueOf, Table.names]

/-- What a pass gives for a tenant are the resets that are due for it. -/
theorem find?_dueOf (hnodup : accounts.names.Nodup) (ha : accounts.find? tenant = some a) :
    ((dueOf accounts t).find? tenant).getD [] = Usage.dueResets a.usage.lastReset t := by
  have hnames : (dueOf accounts t).names.Nodup := hnodup.sublist names_dueOf_sublist
  by_cases hnone : Usage.dueResets a.usage.lastReset t = []
  · have hnot : tenant ∉ (dueOf accounts t).names := by
      rw [mem_names_dueOf hnodup]
      rintro ⟨b, hb, hdue⟩
      rw [ha, Option.some.injEq] at hb
      exact hdue (hb ▸ hnone)
    rw [Table.find?_eq_none_iff.mpr hnot, hnone, Option.getD_none]
  · have hmem : (tenant, Usage.dueResets a.usage.lastReset t) ∈ dueOf accounts t := by
      have hentry := (Table.find?_eq_some_iff hnodup).mp ha
      simp only [dueOf, List.mem_filter, List.mem_map]
      exact ⟨⟨_, hentry, rfl⟩, by simpa using hnone⟩
    rw [(Table.find?_eq_some_iff hnames).mpr hmem, Option.getD_some]

theorem dated_afterDue (h : ∀ e ∈ accounts, e.2.usage.lastReset.Dated) (ht : t.Dated) :
    ∀ e ∈ afterDue accounts t, e.2.usage.lastReset.Dated := by
  intro e he
  obtain ⟨old, hold, rfl⟩ := List.mem_map.mp he
  exact Usage.dated_due (h old hold) ht

theorem find?_foldl_afterDue (times : List Timestamp) :
    (times.foldl (fun accounts t => afterDue accounts t.inUtc) accounts).find? tenant =
      (accounts.find? tenant).map (times.foldl (fun a t => a.due t.inUtc)) := by
  induction times generalizing accounts with
  | nil => simp
  | cons first rest ih =>
    simp only [List.foldl_cons]
    rw [ih, find?_afterDue, Option.map_map]
    rfl

theorem afterDue_of_dueOf_eq_nil (h : dueOf accounts t = []) : afterDue accounts t = accounts := by
  have hsame : ∀ e ∈ accounts, (e.1, e.2.due t) = id e := by
    intro e he
    have hnone : Usage.dueResets e.2.usage.lastReset t = [] := by
      by_contra hdue
      exact List.filter_eq_nil_iff.mp h _ (List.mem_map_of_mem he) (by simpa using hdue)
    rw [Account.due, Usage.due_of_none hnone, id]
  rw [afterDue, List.map_congr_left hsame, List.map_id]

/-- After a pass nothing is due at its time. -/
theorem dueOf_afterDue (accounts : Table Account) (t : Timestamp) :
    dueOf (afterDue accounts t) t = [] := by
  simp [dueOf, afterDue, Account.due, Usage.dueResets_due]

end Ledger

end Quota

namespace Desk

variable {d : Desk} {t : Timestamp} {tenant : String} {call : String → Act Unit}

def withAccounts (d : Desk) (accounts : Table Account) : Desk :=
  { d with ledger := { d.ledger with accounts } }

def dueNotices (applied : Table (List Reset)) : List Log.Notice :=
  applied.map fun e => dueApplied e.1 e.2

theorem run_applyDue_dated {a : Account} (ha : d.ledger.account tenant d.clock.toUtc = .ok a)
    (hclock : d.clock.toUtc = .ok t) (hlast : a.usage.lastReset.Dated) : (applyDue tenant).run d =
      (.ok (Usage.dueResets a.usage.lastReset t), (d.withAccount tenant (a.due t)).logged t
        (if Usage.dueResets a.usage.lastReset t = [] then []
        else [dueApplied tenant (Usage.dueResets a.usage.lastReset t)])) :=
  run_applyDue ha hclock (Usage.applyDue_eq (Timestamp.toUtc_of_toUtc hclock) hlast.toUtc_eq)

/-- A pass goes through the tenants in their order; what it does to those before does not change
what it does to those after. -/
theorem run_runDue_accounts {done todo : Table Account} (hd : d.ledger.accounts = done ++ todo)
    (hnodup : (Table.names (done ++ todo)).Nodup) (hclock : d.clock.toUtc = .ok t)
    (hdated : ∀ e ∈ todo, e.2.usage.lastReset.Dated) :
    (runDue (Table.names todo)).run d = (.ok (Ledger.dueOf todo t),
      (d.withAccounts (done ++ Ledger.afterDue todo t)).logged t
        (dueNotices (Ledger.dueOf todo t))) := by
  induction todo generalizing d done with
  | nil =>
    have hsame : d.withAccounts (done ++ Ledger.afterDue [] t) = d := by
      simp [withAccounts, Ledger.afterDue, ← hd]
    rw [hsame]
    simp [runDue, Act.run_pure, Ledger.dueOf, dueNotices, logged]
  | cons e rest ih =>
    obtain ⟨first, a⟩ := e
    have hnew : first ∉ Table.names done := by
      rw [Table.names, List.map_append, List.nodup_append] at hnodup
      intro hmem
      exact hnodup.2.2 first hmem first (List.mem_cons_self ..) rfl
    have ha : d.ledger.account first d.clock.toUtc = .ok a := by
      simp only [Ledger.account, hd, Table.find?_append_self rest hnew]
    have hlast : a.usage.lastReset.Dated := hdated (first, a) (List.mem_cons_self ..)
    let applied := Usage.dueResets a.usage.lastReset t
    let told := if applied = [] then [] else [dueApplied first applied]
    let later := (d.withAccount first (a.due t)).logged t told
    have hfirst : (applyDue first).run d = (.ok applied, later) :=
      run_applyDue_dated ha hclock hlast
    have hlater : later.ledger.accounts = (done ++ [(first, a.due t)]) ++ rest := by
      simp [later, logged, withAccount, hd, Table.put_append_self a rest hnew]
    have hnames : (Table.names ((done ++ [(first, a.due t)]) ++ rest)).Nodup := by
      simpa [Table.names] using hnodup
    have hrest := ih hlater hnames hclock fun e he => hdated e (List.mem_cons_of_mem _ he)
    have hgiven : Ledger.dueOf ((first, a) :: rest) t =
        if applied = [] then Ledger.dueOf rest t else (first, applied) :: Ledger.dueOf rest t :=
      Ledger.dueOf_cons first a rest t
    have hnotices : dueNotices (Ledger.dueOf ((first, a) :: rest) t) =
        told ++ dueNotices (Ledger.dueOf rest t) := by
      rw [hgiven]
      by_cases hnone : applied = [] <;> simp [told, hnone, dueNotices]
    have hend : (later.withAccounts ((done ++ [(first, a.due t)]) ++ Ledger.afterDue rest t)).logged t
          (dueNotices (Ledger.dueOf rest t)) =
        (d.withAccounts (done ++ Ledger.afterDue ((first, a) :: rest) t)).logged t
          (dueNotices (Ledger.dueOf ((first, a) :: rest) t)) := by
      rw [hnotices]
      simp [later, logged, withAccount, withAccounts, Ledger.afterDue]
    rw [Table.names_cons, runDue, Act.run_bind_ok hfirst, Act.run_bind_ok hrest, Act.run_pure, hend,
      hgiven]

/-! ## One tenant -/

/-- A pass applies to an account exactly the resets whose boundaries were crossed between its last
reset and the clock, whatever the offsets of the two. -/
theorem applyDue_crossed {a : Account} {now : Timestamp} (hlast : a.usage.lastReset.Dated)
    (hnow : now.Dated) :
    (∃ applied after, a.applyDue now = (.ok applied, after) ∧ a.Renewed now applied after) ∧
    ∀ (d : Desk) (tenant : String), d.clock = now →
      d.ledger.account tenant d.clock.toUtc = .ok a →
      ∃ applied after later, (applyDue tenant).run d = (.ok applied, later) ∧
        later.ledger = (d.withAccount tenant after).ledger ∧
        a.Renewed now.inUtc applied after := by
  refine ⟨Account.applyDue_renewed hlast hnow, ?_⟩
  rintro d tenant rfl ha
  have hclock := hnow.toUtc_eq
  exact ⟨_, a.due d.clock.inUtc, _, run_applyDue_dated ha hclock hlast, rfl,
    Account.renewed_due hlast hnow.inUtc⟩

/-- An account that was last reset half an hour into a week, on a clock that is behind. -/
def lastMonday : Account where
  limits := {}
  usage := { messagesToday := 3, messagesThisWeek := 9, imagesToday := 1, videosThisWeek := 2
             lastReset := ⟨739613 * Timestamp.day - 1800 * Timestamp.second, some (-3600)⟩ }

/-- The beginning of the next week, on a clock that is ahead. -/
def nextMonday : Timestamp := ⟨739620 * Timestamp.day + 3600 * Timestamp.second, some 3600⟩

theorem applyDue_crossed_nextMonday : ∃ after,
    lastMonday.applyDue nextMonday = (.ok [.daily, .weekly], after) ∧
      lastMonday.Renewed nextMonday [.daily, .weekly] after := by
  have hlast : lastMonday.usage.lastReset.Dated := ⟨nofun, by decide, by decide⟩
  have hnow : nextMonday.Dated := ⟨nofun, by decide, by decide⟩
  obtain ⟨⟨applied, after, hrun, hrenewed⟩, -⟩ := applyDue_crossed hlast hnow
  have hgiven : (lastMonday.applyDue nextMonday).1 = .ok [.daily, .weekly] := rfl
  rw [hrun] at hgiven
  cases hgiven
  exact ⟨after, hrun, hrenewed⟩

/-! ## All tenants -/

/-- A callback that returns for every known tenant while the clock can be read, and that leaves the
clock and the accounts as they are. -/
def Quiet (call : String → Act Unit) : Prop :=
  ∀ ⦃d : Desk⦄ ⦃t : Timestamp⦄ ⦃tenant : String⦄, d.clock.toUtc = .ok t →
    tenant ∈ d.ledger.tenants →
    ∃ later, (call tenant).run d = (.ok (), later) ∧ later.clock = d.clock ∧
      later.ledger = d.ledger

def callEach (call : String → Act Unit) : List String → Act Unit
  | [] => return ()
  | tenant :: rest => do
    call tenant
    callEach call rest

/-- A pass over all tenants that runs a callback for each tenant it has reset. -/
def fireWith (call : String → Act Unit) : Act (Table (List Reset)) := do
  let applied ← runDue (← Act.look fun d => d.ledger.tenants)
  callEach call applied.names
  if applied = [] then return applied
  notify [passApplied applied]
  return applied

/-- The callback of the desk, which saves the usage of the tenant, if asked. -/
def saving (persist : Bool) (tenant : String) : Act Unit :=
  if persist then (fun _ => ()) <$> persistTenant tenant else return ()

private theorem saving_true_bind (tenant : String) (next : Act Unit) :
    (saving true tenant >>= fun _ => next) = (persistTenant tenant >>= fun _ => next) := by
  funext d
  change (saving true tenant >>= fun _ => next).run d = (persistTenant tenant >>= fun _ => next).run d
  have hmap : (saving true tenant).run d = _ := Act.run_map (fun _ => ()) (persistTenant tenant) d
  rcases hrun : (persistTenant tenant).run d with ⟨e | saved, later⟩
  · simp only [hrun, Except.map] at hmap
    rw [Act.run_bind_error hmap, Act.run_bind_error hrun]
  · simp only [hrun, Except.map] at hmap
    rw [Act.run_bind_ok hmap, Act.run_bind_ok hrun]

private theorem callEach_saving_true (tenants : List String) :
    callEach (saving true) tenants = persistTenants tenants := by
  induction tenants with
  | nil => rfl
  | cons first rest ih =>
    rw [callEach, persistTenants, ih]
    exact saving_true_bind first (persistTenants rest)

private theorem callEach_saving_false (tenants : List String) :
    callEach (saving false) tenants = (return ()) := by
  induction tenants with
  | nil => rfl
  | cons first rest ih =>
    rw [callEach, ih]
    rfl

theorem fire_eq_fireWith (persist : Bool) : fire persist = fireWith (saving persist) := by
  cases persist with
  | true =>
    simp only [fireWith, callEach_saving_true]
    rfl
  | false =>
    simp only [fireWith, callEach_saving_false]
    rfl

theorem quiet_saving (persist : Bool) : Quiet (saving persist) := by
  intro d t tenant hclock hknown
  cases persist with
  | false => exact ⟨d, rfl, rfl, rfl⟩
  | true =>
    obtain ⟨a, ha⟩ := Table.exists_find?_of_mem_names hknown
    have haccount : d.ledger.account tenant d.clock.toUtc = .ok a := by
      simp only [Ledger.account, ha]
    have hread := run_account haccount fun a => a.usage
    rw [withAccount_of_find? ha] at hread
    have hsave := run_save hclock (fun archive => archive.saveUsage tenant (.ofUsage a.usage))
      (Archive.usageNotSaved tenant)
    rw [← saveUsage_eq] at hsave
    have hrun (saved : Result Bool) (later : Desk)
        (h : (saveUsage tenant (.ofUsage a.usage)).run d = (.ok saved, later)) :
        (saving true tenant).run d = (.ok (), later) := by
      have hpersist : (persistTenant tenant).run d = (.ok saved.isOk, later) := by
        unfold persistTenant usage
        rw [Act.run_bind_ok hread, Act.run_bind_ok h, Act.run_pure]
      exact (Act.run_map ..).trans (by rw [hpersist]; rfl)
    rcases hsave with ⟨archive, -, h⟩ | ⟨e, h⟩
    · exact ⟨_, hrun _ _ h, rfl, rfl⟩
    · exact ⟨_, hrun _ _ h, rfl, rfl⟩

/-- A callback was run for some tenants, once for each of them and in their order. -/
inductive Calls (call : String → Act Unit) : List String → Desk → Desk → Prop
  | nil (d : Desk) : Calls call [] d d
  | cons {first : String} {rest : List String} {d middle later : Desk}
      (run : (call first).run d = (.ok (), middle)) (others : Calls call rest middle later) :
      Calls call (first :: rest) d later

theorem exists_calls {tenants : List String} (hquiet : Quiet call) (hclock : d.clock.toUtc = .ok t)
    (hknown : ∀ tenant ∈ tenants, tenant ∈ d.ledger.tenants) :
    ∃ later, (callEach call tenants).run d = (.ok (), later) ∧ Calls call tenants d later ∧
      later.clock = d.clock ∧ later.ledger = d.ledger := by
  induction tenants generalizing d with
  | nil => exact ⟨d, rfl, .nil d, rfl, rfl⟩
  | cons first rest ih =>
    obtain ⟨middle, hrun, hsameClock, hsame⟩ := hquiet hclock (hknown first (List.mem_cons_self ..))
    have hread : middle.clock.toUtc = .ok t := by rw [hsameClock, hclock]
    have hothers : ∀ tenant ∈ rest, tenant ∈ middle.ledger.tenants := by
      intro tenant h
      rw [hsame]
      exact hknown tenant (List.mem_cons_of_mem _ h)
    obtain ⟨later, hrest, hcalls, hlaterClock, hlater⟩ := ih hread hothers
    refine ⟨later, ?_, .cons hrun hcalls, hlaterClock.trans hsameClock, hlater.trans hsame⟩
    rw [callEach, Act.run_bind_ok hrun, hrest]

/-- What a pass does at the time of the clock, when `applied` is what it gives. -/
structure Passed (call : String → Act Unit) (applied : Table (List Reset)) (d later : Desk) :
    Prop where
  /-- Every account is renewed by the resets that are given for its tenant. -/
  accounts : later.ledger.tenants = d.ledger.tenants ∧
    ∀ tenant a, d.ledger.accounts.find? tenant = some a →
      ∃ b, later.ledger.accounts.find? tenant = some b ∧
        a.Renewed d.clock.inUtc ((applied.find? tenant).getD []) b
  once : applied.names.Nodup
  /-- Exactly the tenants with a crossed boundary are given. -/
  due : ∀ tenant, tenant ∈ applied.names ↔ ∃ a, d.ledger.accounts.find? tenant = some a ∧
    ∃ r, Reset.Crossed r a.usage.lastReset d.clock
  calls : ∃ reset called notices, (runDue d.ledger.tenants).run d = (.ok applied, reset) ∧
    Calls call applied.names reset called ∧ later = called.logged d.clock.inUtc notices

theorem run_runDue_tenants (hd : d.ledger.Dated) (hclock : d.clock.toUtc = .ok t) :
    (runDue d.ledger.tenants).run d = (.ok (Ledger.dueOf d.ledger.accounts t),
      (d.withAccounts (Ledger.afterDue d.ledger.accounts t)).logged t
        (dueNotices (Ledger.dueOf d.ledger.accounts t))) :=
  run_runDue_accounts (List.nil_append _).symm hd.names hclock hd.lastReset

theorem exists_renewed {a : Account} (hd : d.ledger.Dated) (hclock : d.clock.Dated)
    (ha : d.ledger.accounts.find? tenant = some a) :
    ∃ b, (Ledger.afterDue d.ledger.accounts d.clock.inUtc).find? tenant = some b ∧
      a.Renewed d.clock.inUtc
        (((Ledger.dueOf d.ledger.accounts d.clock.inUtc).find? tenant).getD []) b := by
  have hentry := (Table.find?_eq_some_iff hd.names).mp ha
  refine ⟨a.due d.clock.inUtc, by rw [Ledger.find?_afterDue, ha, Option.map_some], ?_⟩
  rw [Ledger.find?_dueOf hd.names ha]
  exact Account.renewed_due (hd.lastReset _ hentry) hclock.inUtc

theorem mem_dueOf_iff_crossed (hd : d.ledger.Dated) :
    tenant ∈ (Ledger.dueOf d.ledger.accounts d.clock.inUtc).names ↔
      ∃ a, d.ledger.accounts.find? tenant = some a ∧
        ∃ r, Reset.Crossed r a.usage.lastReset d.clock := by
  rw [Ledger.mem_names_dueOf hd.names]
  refine exists_congr fun a => and_congr_right fun ha => ?_
  have hlast := hd.lastReset _ ((Table.find?_eq_some_iff hd.names).mp ha)
  have hsame (r : Reset) : r.Crossed a.usage.lastReset d.clock.inUtc ↔
      r.Crossed a.usage.lastReset d.clock :=
    Reset.crossed_congr rfl d.clock.instant_inUtc
  rw [Ne, Usage.dueResets_eq_nil_iff hlast.low, not_forall_not]
  exact exists_congr hsame

theorem run_fireWith (hquiet : Quiet call) (hd : d.ledger.Dated) (hclock : d.clock.Dated) :
    ∃ later, (fireWith call).run d = (.ok (Ledger.dueOf d.ledger.accounts d.clock.inUtc), later) ∧
      later.ledger = { d.ledger with accounts := Ledger.afterDue d.ledger.accounts d.clock.inUtc } ∧
      later.clock = d.clock ∧
      Passed call (Ledger.dueOf d.ledger.accounts d.clock.inUtc) d later := by
  let applied := Ledger.dueOf d.ledger.accounts d.clock.inUtc
  have hread := hclock.toUtc_eq
  have hlook := Act.run_look (fun d : Desk => d.ledger.tenants) d
  have hrun := run_runDue_tenants hd hread
  have hknown : ∀ tenant ∈ applied.names,
      tenant ∈ (Ledger.afterDue d.ledger.accounts d.clock.inUtc).names := by
    intro tenant h
    rw [Ledger.names_afterDue]
    exact Ledger.names_dueOf_sublist.subset h
  obtain ⟨called, hcall, hcalls, hcalledClock, hcalledLedger⟩ := exists_calls
    (d := (d.withAccounts (Ledger.afterDue d.ledger.accounts d.clock.inUtc)).logged d.clock.inUtc
      (dueNotices applied)) hquiet hread hknown
  have hcalledRead : called.clock.toUtc = .ok d.clock.inUtc := by rw [hcalledClock]; exact hread
  let notices := if applied = [] then [] else [passApplied applied]
  have hfire : (fireWith call).run d = (.ok applied, called.logged d.clock.inUtc notices) := by
    rw [fireWith, Act.run_bind_ok hlook, Act.run_bind_ok hrun, Act.run_bind_ok hcall]
    by_cases hnone : applied = []
    · have hsame : called.logged d.clock.inUtc notices = called := by
        simp [notices, hnone, logged]
      rw [if_pos hnone, Act.run_pure, hsame]
    · have htold : notices = [passApplied applied] := if_neg hnone
      rw [if_neg hnone, Act.run_bind_ok (run_notify hcalledRead _), Act.run_pure, htold]
  have hledger : (called.logged d.clock.inUtc notices).ledger =
      { d.ledger with accounts := Ledger.afterDue d.ledger.accounts d.clock.inUtc } :=
    hcalledLedger
  refine ⟨_, hfire, hledger, hcalledClock, ?_⟩
  exact {
    accounts := by
      rw [hledger]
      exact ⟨Ledger.names_afterDue, fun tenant a ha => exists_renewed hd hclock ha⟩
    once := hd.names.sublist Ledger.names_dueOf_sublist
    due := fun tenant => mem_dueOf_iff_crossed hd
    calls := ⟨_, _, _, hrun, hcalls, rfl⟩ }

/-- Where nothing is due, a pass changes nothing and tells nothing. -/
theorem run_fireWith_idle (hd : d.ledger.Dated) (hclock : d.clock.Dated)
    (hidle : Ledger.dueOf d.ledger.accounts d.clock.inUtc = []) :
    (fireWith call).run d = (.ok [], d) := by
  have hlook := Act.run_look (fun d : Desk => d.ledger.tenants) d
  have hrun := run_runDue_tenants hd hclock.toUtc_eq
  have hsame : (d.withAccounts d.ledger.accounts).logged d.clock.inUtc (dueNotices []) = d := by
    simp [withAccounts, logged, dueNotices]
  rw [hidle, Ledger.afterDue_of_dueOf_eq_nil hidle, hsame] at hrun
  rw [fireWith, Act.run_bind_ok hlook, Act.run_bind_ok hrun]
  rfl

/-! ## One pass after another -/

/-- Passes at one time after another, with nothing in between: each of them does what a pass does,
and a second one at the same time would give nothing and change nothing. -/
inductive Firings (call : String → Act Unit) : List Timestamp → Desk → Desk → Prop
  | nil (d : Desk) : Firings call [] d d
  | cons {t : Timestamp} {times : List Timestamp} {d middle later : Desk}
      {applied : Table (List Reset)}
      (run : (fireWith call).run { d with clock := t } = (.ok applied, middle))
      (passed : Passed call applied { d with clock := t } middle)
      (again : (fireWith call).run middle = (.ok [], middle))
      (others : Firings call times middle later) : Firings call (t :: times) d later

theorem exists_firings {times : List Timestamp} (hquiet : Quiet call) (hd : d.ledger.Dated)
    (hdated : ∀ t ∈ times, t.Dated) :
    ∃ later, Firings call times d later ∧ later.ledger.accounts =
      times.foldl (fun accounts t => Ledger.afterDue accounts t.inUtc) d.ledger.accounts := by
  induction times generalizing d with
  | nil => exact ⟨d, .nil d, rfl⟩
  | cons first rest ih =>
    have hfirst := hdated first (List.mem_cons_self ..)
    obtain ⟨middle, hrun, hledger, hclock, hpassed⟩ :=
      run_fireWith (d := { d with clock := first }) hquiet hd hfirst
    have hmiddle : middle.ledger.Dated := by
      rw [hledger]
      exact ⟨by rw [Ledger.names_afterDue]; exact hd.names,
        Ledger.dated_afterDue hd.lastReset hfirst.inUtc⟩
    have hagain : (fireWith call).run middle = (.ok [], middle) := by
      apply run_fireWith_idle hmiddle (hclock ▸ hfirst)
      rw [hledger, hclock]
      exact Ledger.dueOf_afterDue ..
    obtain ⟨later, hrest, hlater⟩ := ih hmiddle fun t h => hdated t (List.mem_cons_of_mem _ h)
    refine ⟨later, .cons hrun hpassed hagain hrest, ?_⟩
    rw [hlater, hledger, List.foldl_cons]

/-- Late and repeated passes coalesce: passes at times that do not go back leave every tenant with
the counters that one pass at the last of these times leaves it with. -/
theorem firings_coalesce {first : Timestamp} {rest : List Timestamp} (hquiet : Quiet call)
    (hd : d.ledger.Dated) (hdated : ∀ t ∈ first :: rest, t.Dated)
    (hmono : (first :: rest).Pairwise fun s t => s.instant ≤ t.instant) :
    (∀ persist, fire persist = fireWith (saving persist) ∧ Quiet (saving persist)) ∧
    ∃ later alone, Firings call (first :: rest) d later ∧
      Firings call [(first :: rest).getLast (List.cons_ne_nil first rest)] d alone ∧
      ∀ tenant, (later.ledger.accounts.find? tenant).map Account.snapshot =
        (alone.ledger.accounts.find? tenant).map Account.snapshot := by
  refine ⟨fun persist => ⟨fire_eq_fireWith persist, quiet_saving persist⟩, ?_⟩
  have hlast := List.getLast_mem (List.cons_ne_nil first rest)
  obtain ⟨later, hfirings, hlater⟩ := exists_firings hquiet hd hdated
  obtain ⟨alone, hfiring, halone⟩ := exists_firings hquiet hd
    (List.forall_mem_singleton.mpr (hdated _ hlast))
  refine ⟨later, alone, hfirings, hfiring, fun tenant => ?_⟩
  rw [hlater, halone, Ledger.find?_foldl_afterDue, Ledger.find?_foldl_afterDue, Option.map_map,
    Option.map_map]
  congr 1
  funext a
  exact Account.snapshot_foldl_due hmono a

/-- A desk with a tenant for whom a week is over on the next Monday, and one for whom no day is. -/
def twoTenants : Desk :=
  { Desk.new {} none default nextMonday with
    ledger :=
      { defaults := {}
        accounts := [("busy", lastMonday), ("idle", { lastMonday with
          usage := { lastMonday.usage with lastReset := nextMonday } })] } }

theorem firings_coalesce_nextMonday :
    let times := [⟨739619 * Timestamp.day, some 0⟩, nextMonday, nextMonday]
    ∃ later alone, Firings (saving true) times twoTenants later ∧
      Firings (saving true) [nextMonday] twoTenants alone ∧
      ∀ tenant, (later.ledger.accounts.find? tenant).map Account.snapshot =
        (alone.ledger.accounts.find? tenant).map Account.snapshot := by
  intro times
  have hlast : lastMonday.usage.lastReset.Dated := ⟨nofun, by decide, by decide⟩
  have hnow : nextMonday.Dated := ⟨nofun, by decide, by decide⟩
  have hledger : twoTenants.ledger.Dated :=
    ⟨by decide, by simpa [twoTenants] using ⟨hlast, hnow⟩⟩
  have hdated : ∀ t ∈ times, t.Dated := by
    simpa [times] using ⟨⟨nofun, by decide, by decide⟩, hnow⟩
  have hmono : times.Pairwise fun s t => s.instant ≤ t.instant := by decide
  exact (firings_coalesce (quiet_saving true) hledger hdated hmono).2

end Desk

end SalesDesk
