import SalesDesk.Proofs.Desk.Frame
import SalesDesk.Proofs.Desk.Parallel

/-!
# Tenants and conversations do not interfere

Accounts and statuses are kept under keys. What is done under one key reads and changes what is kept
under it, the clock, the limits of new accounts and the numbers to be drawn, and nothing that is kept
under another key. So the operations under one key have the results that they have when all others
are left out, up to the length of pauses: all tenants share the numbers that these are drawn from.
-/

namespace SalesDesk

open Quota

/-! ## Operations -/

namespace Quota

/-- What can be done with the account of a tenant. -/
inductive Operation where
  | send (x : Send)
  | reset (r : Reset)
  | applyDue
  | configure (limits : Limits)
  | restore (usage : Usage)
  | ask (q : Question)
  deriving DecidableEq, Repr

/-- What comes back, without the length of a pause. -/
inductive Returned where
  | admission (a : Admission)
  | usage (u : Usage)
  | snapshot (s : Snapshot)
  | limits (l : Limits)
  | flag (b : Bool)
  | needs (daily weekly : Bool)
  | resets (applied : List Reset)
  | done
  deriving DecidableEq, Repr

def Admission.withoutPause (a : Admission) : Admission := { a with delaySeconds := none }

def Question.answer (tenant : String) : Question → Act Returned
  | message => .flag <$> Desk.checkMessage tenant
  | media m => .flag <$> Desk.checkMedia tenant m
  | usage => .usage <$> Desk.usage tenant
  | snapshot => .snapshot <$> Desk.snapshot tenant
  | limits => .limits <$> Desk.limits tenant
  | resets => (fun needs => .needs needs.1 needs.2) <$> Desk.needsResets tenant
  | pause => (fun _ => .done) <$> Desk.pause tenant

def Operation.perform (tenant : String) : Operation → Act Returned
  | send x => (fun a => .admission a.withoutPause) <$> Desk.trySend tenant x
  | reset r => .usage <$> Desk.runReset tenant r
  | applyDue => .resets <$> Desk.applyDue tenant
  | configure limits => (fun _ => .done) <$> Desk.configure tenant limits
  | restore usage => (fun _ => .done) <$> Desk.restoreUsage tenant usage
  | ask q => q.answer tenant

end Quota

namespace Conversation

/-- What can be done with the status of a conversation. -/
inductive Operation where
  | applyEvent (e : Event)
  | stop
  | override (new : Option State)
  | restore (status : Status)
  | state
  | stopped
  deriving DecidableEq, Repr

inductive Returned where
  | states (before after : State)
  | state (s : State)
  | stopped (b : Bool)
  | done
  deriving DecidableEq, Repr

def Operation.perform (id : String) : Operation → Act Returned
  | applyEvent e => (fun states => .states states.1 states.2) <$> Desk.applyEvent id e
  | stop => (fun _ => .done) <$> Desk.stopAutomation id
  | override new => .state <$> Desk.override id new
  | restore status => (fun _ => .done) <$> Desk.restoreStatus id status
  | state => (fun s => .state s.state) <$> Desk.status id
  | stopped => (fun s => .stopped s.stopped) <$> Desk.status id

end Conversation

inductive Key where
  | tenant (name : String)
  | conversation (id : String)
  deriving DecidableEq, Repr

inductive Operation where
  | account (tenant : String) (o : Quota.Operation)
  | status (id : String) (o : Conversation.Operation)
  deriving DecidableEq, Repr

inductive Returned where
  | account (o : Quota.Returned)
  | status (o : Conversation.Returned)
  deriving DecidableEq, Repr

namespace Operation

def key : Operation → Key
  | account tenant _ => .tenant tenant
  | status id _ => .conversation id

def perform : Operation → Act Returned
  | account tenant o => .account <$> o.perform tenant
  | status id o => .status <$> o.perform id

end Operation

/-- What is kept under a key, if anything is. -/
inductive Slot where
  | account (a : Option Account)
  | status (s : Option Conversation.Status)
  deriving DecidableEq, Repr

namespace Desk

variable {α β : Type} {k other : Key} {d e later : Desk} {tenant id : String}

def slot (d : Desk) : Key → Slot
  | .tenant name => .account (d.ledger.accounts.find? name)
  | .conversation id => .status (d.registry.find? id)

/-! ## What is kept under a key -/

/-- Two desks keep the same under a key, and would begin a new account in the same way. -/
structure Alike (k : Key) (d e : Desk) : Prop where
  clock : e.clock = d.clock
  defaults : e.ledger.defaults = d.ledger.defaults
  slot : e.slot k = d.slot k

theorem Alike.refl (k : Key) (d : Desk) : d.Alike k d := ⟨rfl, rfl, rfl⟩

theorem Alike.trans (h : d.Alike k later) (hlast : later.Alike k e) : d.Alike k e :=
  ⟨hlast.clock.trans h.clock, hlast.defaults.trans h.defaults, hlast.slot.trans h.slot⟩

theorem Alike.account (h : d.Alike (.tenant tenant) e) :
    e.ledger.account tenant e.clock.toUtc = d.ledger.account tenant d.clock.toUtc := by
  have hslot : e.ledger.accounts.find? tenant = d.ledger.accounts.find? tenant :=
    Slot.account.inj h.slot
  unfold Ledger.account
  rw [hslot, h.clock, h.defaults]

theorem Alike.status (h : d.Alike (.conversation id) e) :
    e.registry.status id = d.registry.status id := by
  have hslot : e.registry.find? id = d.registry.find? id := Slot.status.inj h.slot
  unfold Conversation.Registry.status
  rw [hslot]

theorem alike_withAccount (h : k ≠ .tenant tenant) (d : Desk) (a : Account) :
    d.Alike k (d.withAccount tenant a) := by
  refine ⟨rfl, rfl, ?_⟩
  cases k with
  | tenant name =>
    have hname : tenant ≠ name := fun hsame => h (congrArg Key.tenant hsame.symm)
    exact congrArg Slot.account (Table.find?_put_of_ne _ _ hname)
  | conversation id => rfl

theorem alike_update (h : k ≠ .conversation id) (d : Desk)
    (f : Conversation.Status → Conversation.Status) :
    d.Alike k { d with registry := d.registry.update id f } := by
  refine ⟨rfl, rfl, ?_⟩
  cases k with
  | tenant name => rfl
  | conversation other =>
    have hid : id ≠ other := fun hsame => h (congrArg Key.conversation hsame.symm)
    exact congrArg Slot.status (Table.find?_put_of_ne _ _ hid)

end Desk

/-! ## Acts under a key -/

namespace Act

open Desk

variable {α β γ δ : Type} {k : Key} {p : α → β → Prop} {q : γ → δ → Prop} {act : Act α}
  {other : Act β} {next : α → Act γ} {otherNext : β → Act δ}

/-- Two acts work under a key: where the same is kept under it they have results that match and keep
the same under it again, and what is kept under another key stays. -/
structure Under (k : Key) (p : α → β → Prop) (act : Act α) (other : Act β) : Prop where
  parallel : act.Parallel (Alike k) p other
  leads : ∀ l, l ≠ k → act.Leads (Alike l)

theorem under_pure {a : α} {b : β} (h : p a b) : (pure a : Act α).Under k p (pure b) :=
  ⟨parallel_pure h, fun l _ d => .refl l d⟩

theorem Under.bind (h : act.Under k p other)
    (hnext : ∀ a b, p a b → (next a).Under k q (otherNext b)) :
    (act >>= next).Under k q (other >>= otherNext) := by
  refine ⟨h.parallel.bind fun a b hab => (hnext a b hab).parallel, fun l hl d => ?_⟩
  have hlater := h.leads l hl d
  -- What the second act does with the same desk is a result that matches.
  have hmatched := (h.parallel d d (.refl k d)).1
  rcases hrun : act.run d with ⟨e | a, later⟩
  · rw [hrun] at hlater
    rw [run_bind_error hrun]
    exact hlater
  · rw [hrun] at hlater hmatched
    rw [run_bind_ok hrun]
    cases hother : (other.run d).1 with
    | error e =>
      rw [hother] at hmatched
      exact hmatched.elim
    | ok b =>
      rw [hother] at hmatched
      exact hlater.trans ((hnext a b hmatched).leads l hl later)

theorem Under.map {f : α → γ} {g : β → δ} (h : act.Under k p other)
    (hmap : ∀ a b, p a b → q (f a) (g b)) : (f <$> act).Under k q (g <$> other) :=
  h.bind fun a b hab => under_pure (hmap a b hab)

end Act

namespace Desk

variable {α β : Type} {k : Key} {tenant id : String} {p : α → β → Prop}

theorem under_ofExcept {ε : Type} {fault : ε → Fault} {first : Except ε α}
    {second : Except ε β} (h : Act.Matched p (first.mapError fault) (second.mapError fault)) :
    (Act.ofExcept fault first).Under k p (Act.ofExcept fault second) := by
  constructor
  · intro d e hde
    cases first <;> cases second <;> exact ⟨h, hde⟩
  · intro l _ d
    cases first <;> exact .refl l d

theorem under_now (k : Key) : now.Under k Eq now := by
  constructor
  · intro d e hde
    cases hclock : d.clock.toUtc with
    | ok t =>
      rw [run_now hclock, run_now (hde.clock ▸ hclock)]
      exact ⟨rfl, hde⟩
    | error fault =>
      rw [run_now_error hclock, run_now_error (hde.clock ▸ hclock)]
      exact ⟨rfl, hde⟩
  · intro l _ d
    cases hclock : d.clock.toUtc with
    | ok t =>
      rw [run_now hclock]
      exact .refl l d
    | error fault =>
      rw [run_now_error hclock]
      exact .refl l d

theorem under_notify (k : Key) (notices : List Log.Notice) :
    (notify notices).Under k Eq (notify notices) := by
  have hlog (n : Log.Notice) (t : Timestamp) :
      (Act.change fun d : Desk =>
        { d with outbox := { d.outbox with records := d.outbox.records ++ [n.record t] } }).Under k Eq
      (Act.change fun d : Desk =>
        { d with outbox := { d.outbox with records := d.outbox.records ++ [n.record t] } }) :=
    ⟨fun _ _ hde => ⟨rfl, hde.clock, hde.defaults, hde.slot⟩, fun _ _ _ => ⟨rfl, rfl, rfl⟩⟩
  induction notices with
  | nil => exact Act.under_pure rfl
  | cons n rest ih =>
    apply (under_now k).bind
    rintro t _ rfl
    exact (hlog n t).bind fun _ _ _ => ih

theorem under_drawBase (k : Key) : drawBase.Under k (fun _ _ => True) drawBase :=
  ⟨fun _ _ hde => ⟨trivial, hde.clock, hde.defaults, hde.slot⟩, fun _ _ _ => ⟨rfl, rfl, rfl⟩⟩

/-! ### Accounts -/

theorem under_onAccount {f : Account → α × Account} {g : Account → β × Account}
    (h : ∀ a, p (f a).1 (g a).1 ∧ (f a).2 = (g a).2) :
    (onAccount tenant f).Under (.tenant tenant) p (onAccount tenant g) := by
  constructor
  · intro d e hde
    have haccount := hde.account
    cases ha : d.ledger.account tenant d.clock.toUtc with
    | error fault =>
      rw [ha] at haccount
      rw [run_onAccount_error ha, run_onAccount_error haccount]
      exact ⟨rfl, hde⟩
    | ok a =>
      rw [ha] at haccount
      rw [run_onAccount ha, run_onAccount haccount, (h a).2]
      refine ⟨(h a).1, hde.clock, hde.defaults, congrArg Slot.account ?_⟩
      exact (Table.find?_put_self ..).trans (Table.find?_put_self ..).symm
  · intro l hl d
    cases ha : d.ledger.account tenant d.clock.toUtc with
    | error fault =>
      rw [run_onAccount_error ha]
      exact .refl l d
    | ok a =>
      rw [run_onAccount ha]
      exact alike_withAccount hl d _

theorem under_account (tenant : String) (f : Account → α) :
    (account tenant f).Under (.tenant tenant) Eq (account tenant f) :=
  under_onAccount fun _ => ⟨rfl, rfl⟩

/-- Whether there is a pause does not depend on the number that is drawn for it. -/
theorem matched_delay (a : Account) (base other : Int) : Act.Matched (fun _ _ => True)
    ((a.delay base).mapError Fault.quota) ((a.delay other).mapError Fault.quota) := by
  unfold Account.delay Snapshot.delay?
  cases a.snapshot.ratio? a.limits with
  | none => rfl
  | some ratio => trivial

theorem under_pause (tenant : String) :
    (pause tenant).Under (.tenant tenant) (fun _ _ => True) (pause tenant) := by
  unfold pause
  apply (under_account tenant _).bind
  rintro _ _ -
  apply (under_drawBase _).bind
  intro base other _
  have hdelay : (account tenant fun a => a.delay base).Under (.tenant tenant)
      (fun first second => Act.Matched (fun _ _ => True) (first.mapError Fault.quota)
        (second.mapError Fault.quota)) (account tenant fun a => a.delay other) :=
    under_onAccount fun a => ⟨matched_delay a base other, rfl⟩
  exact hdelay.bind fun _ _ hmatched => under_ofExcept hmatched

theorem matched_grant (a : Account) (can : Bool) (after : Snapshot) (base other : Int) :
    Act.Matched (fun first second => first.withoutPause = second.withoutPause)
      ((a.grant can after base).1.mapError Fault.quota)
      ((a.grant can after other).1.mapError Fault.quota) ∧
    (a.grant can after base).2 = (a.grant can after other).2 := by
  cases can with
  | false => exact ⟨rfl, rfl⟩
  | true =>
    have hdelay := matched_delay a base other
    cases hbase : a.delay base with
    | error first =>
      cases hother : a.delay other with
      | error second =>
        rw [hbase, hother] at hdelay
        rw [Account.grant_noPause hbase, Account.grant_noPause hother]
        exact ⟨hdelay, rfl⟩
      | ok second =>
        rw [hbase, hother] at hdelay
        exact hdelay.elim
    | ok first =>
      cases hother : a.delay other with
      | error second =>
        rw [hbase, hother] at hdelay
        exact hdelay.elim
      | ok second =>
        rw [Account.grant_admitted hbase, Account.grant_admitted hother]
        exact ⟨rfl, rfl⟩

/-- What is done about a send after the base of its pause is drawn. -/
def grantSend (tenant : String) (x : Send) (base : Int) : Act Admission := do
  let admission ← Act.ofExcept .quota
    (← onAccount tenant fun a => a.grant (x.can a) (x.count a.snapshot) base)
  if admission.allowed then return admission
  notify [x.refused tenant admission.before]
  return admission

theorem trySend_eq_grantSend (tenant : String) (x : Send) : trySend tenant x = (do
    if ← account tenant x.can then grantSend tenant x (← drawBase) else grantSend tenant x 0) := by
  rw [trySend_eq]
  rfl

theorem under_grantSend (tenant : String) (x : Send) (base other : Int) :
    (grantSend tenant x base).Under (.tenant tenant)
      (fun first second => first.withoutPause = second.withoutPause)
      (grantSend tenant x other) := by
  have hgrant : (onAccount tenant fun a => a.grant (x.can a) (x.count a.snapshot) base).Under
      (.tenant tenant)
      (fun first second => Act.Matched (fun a b => a.withoutPause = b.withoutPause)
        (first.mapError Fault.quota) (second.mapError Fault.quota))
      (onAccount tenant fun a => a.grant (x.can a) (x.count a.snapshot) other) :=
    under_onAccount fun a => matched_grant a _ _ base other
  unfold grantSend
  apply hgrant.bind
  intro first second hmatched
  apply (under_ofExcept hmatched).bind
  intro a b hab
  have hallowed : a.allowed = b.allowed := (Admission.mk.inj hab).1
  have hbefore : a.before = b.before := (Admission.mk.inj hab).2.1
  rw [hallowed, hbefore]
  by_cases hadmitted : b.allowed = true
  · rw [if_pos hadmitted, if_pos hadmitted]
    exact Act.under_pure hab
  · rw [if_neg hadmitted, if_neg hadmitted]
    exact (under_notify _ _).bind fun _ _ _ => Act.under_pure hab

theorem under_trySend (tenant : String) (x : Send) :
    (trySend tenant x).Under (.tenant tenant)
      (fun first second => first.withoutPause = second.withoutPause) (trySend tenant x) := by
  rw [trySend_eq_grantSend]
  apply (under_account tenant _).bind
  rintro can _ rfl
  cases can with
  | true =>
    exact (under_drawBase _).bind fun base other _ => under_grantSend tenant x base other
  | false => exact under_grantSend tenant x 0 0

theorem under_runReset (tenant : String) (r : Reset) :
    (runReset tenant r).Under (.tenant tenant) Eq (runReset tenant r) := by
  rw [runReset_eq]
  apply (under_onAccount (p := Eq) fun _ => ⟨rfl, rfl⟩).bind
  rintro _ _ -
  apply (under_now _).bind
  rintro time _ rfl
  apply (under_onAccount (p := Eq) fun _ => ⟨rfl, rfl⟩).bind
  rintro usage _ rfl
  exact (under_notify _ _).bind fun _ _ _ => Act.under_pure rfl

theorem matched_refl {ε : Type} (fault : ε → Fault) (r : Except ε α) :
    Act.Matched Eq (r.mapError fault) (r.mapError fault) := by
  cases r <;> rfl

theorem under_applyDue (tenant : String) :
    (applyDue tenant).Under (.tenant tenant) Eq (applyDue tenant) := by
  unfold applyDue
  apply (under_now _).bind
  rintro time _ rfl
  apply (under_onAccount (p := Eq) fun _ => ⟨rfl, rfl⟩).bind
  rintro result _ rfl
  apply (under_ofExcept (matched_refl Fault.quota result)).bind
  rintro applied _ rfl
  by_cases hnone : applied = []
  · rw [if_pos hnone]
    exact Act.under_pure rfl
  · rw [if_neg hnone]
    exact (under_notify _ _).bind fun _ _ _ => Act.under_pure rfl

theorem under_needsResets (tenant : String) :
    (needsResets tenant).Under (.tenant tenant) Eq (needsResets tenant) := by
  unfold needsResets
  apply (under_now _).bind
  rintro time _ rfl
  apply (under_account tenant _).bind
  rintro result _ rfl
  exact under_ofExcept (matched_refl Fault.quota result)

theorem under_configure (tenant : String) (limits : Limits) :
    (configure tenant limits).Under (.tenant tenant) Eq (configure tenant limits) := by
  unfold configure
  apply (under_onAccount (p := Eq) fun _ => ⟨rfl, rfl⟩).bind
  exact fun _ _ _ => under_notify _ _

/-! ### Conversations -/

theorem under_update (id : String) (f : Conversation.Status → Conversation.Status) :
    (Act.change fun d : Desk => { d with registry := d.registry.update id f }).Under
      (.conversation id) Eq
      (Act.change fun d : Desk => { d with registry := d.registry.update id f }) := by
  have hput (d : Desk) :
      (d.registry.update id f).find? id = some (f (d.registry.status id)) := Table.find?_put_self ..
  refine ⟨fun d e hde => ⟨rfl, hde.clock, hde.defaults, congrArg Slot.status ?_⟩,
    fun l hl d => alike_update hl d f⟩
  have hstatus := congrArg (fun s => some (f s)) hde.status
  exact (hput e).trans (hstatus.trans (hput d).symm)

theorem under_status (id : String) : (status id).Under (.conversation id) Eq (status id) := by
  refine ⟨fun d e hde => ⟨hde.status.symm, ?_⟩, fun l hl d => alike_update hl d _⟩
  exact ((under_update id _).parallel d e hde).2

theorem under_applyEvent (id : String) (e : Conversation.Event) :
    (applyEvent id e).Under (.conversation id) Eq (applyEvent id e) := by
  unfold applyEvent
  apply (under_status id).bind
  rintro s _ rfl
  apply (under_update id _).bind
  rintro _ _ -
  dsimp only
  split
  · exact Act.under_pure rfl
  · exact (under_notify _ _).bind fun _ _ _ => Act.under_pure rfl

theorem under_stopAutomation (id : String) :
    (stopAutomation id).Under (.conversation id) Eq (stopAutomation id) := by
  unfold stopAutomation
  exact (under_update id _).bind fun _ _ _ => under_notify _ _

theorem under_override (id : String) (state : Option Conversation.State) :
    (override id state).Under (.conversation id) Eq (override id state) := by
  unfold override
  apply (under_update id _).bind
  rintro _ _ -
  exact (under_notify _ _).bind fun _ _ _ => Act.under_pure rfl

end Desk

/-! ## Operations under their keys -/

theorem Quota.Question.under_answer (tenant : String) (q : Question) :
    (q.answer tenant).Under (.tenant tenant) Eq (q.answer tenant) := by
  cases q with
  | message => exact (Desk.under_account tenant _).map fun _ _ => congrArg _
  | media m => exact (Desk.under_account tenant _).map fun _ _ => congrArg _
  | usage => exact (Desk.under_account tenant _).map fun _ _ => congrArg _
  | snapshot => exact (Desk.under_account tenant _).map fun _ _ => congrArg _
  | limits => exact (Desk.under_account tenant _).map fun _ _ => congrArg _
  | resets => exact (Desk.under_needsResets tenant).map fun _ _ h => h ▸ rfl
  | pause => exact (Desk.under_pause tenant).map fun _ _ _ => rfl

theorem Quota.Operation.under_perform (tenant : String) (o : Quota.Operation) :
    (o.perform tenant).Under (.tenant tenant) Eq (o.perform tenant) := by
  cases o with
  | send x => exact (Desk.under_trySend tenant x).map fun _ _ => congrArg _
  | reset r => exact (Desk.under_runReset tenant r).map fun _ _ => congrArg _
  | applyDue => exact (Desk.under_applyDue tenant).map fun _ _ => congrArg _
  | configure limits => exact (Desk.under_configure tenant limits).map fun _ _ _ => rfl
  | restore usage =>
    exact (Desk.under_onAccount (p := Eq) fun _ => ⟨rfl, rfl⟩).map fun _ _ _ => rfl
  | ask q => exact q.under_answer tenant

theorem Conversation.Operation.under_perform (id : String) (o : Conversation.Operation) :
    (o.perform id).Under (.conversation id) Eq (o.perform id) := by
  cases o with
  | applyEvent e => exact (Desk.under_applyEvent id e).map fun _ _ h => h ▸ rfl
  | stop => exact (Desk.under_stopAutomation id).map fun _ _ _ => rfl
  | override new => exact (Desk.under_override id new).map fun _ _ => congrArg _
  | restore status => exact (Desk.under_update id _).map fun _ _ _ => rfl
  | state => exact (Desk.under_status id).map fun _ _ h => h ▸ rfl
  | stopped => exact (Desk.under_status id).map fun _ _ h => h ▸ rfl

theorem Operation.under_perform (o : Operation) : o.perform.Under o.key Eq o.perform := by
  cases o with
  | account tenant o => exact (o.under_perform tenant).map fun _ _ => congrArg _
  | status id o => exact (o.under_perform id).map fun _ _ => congrArg _

/-! ## Runs -/

/-- An operation, and the clock at which it is performed. -/
structure Task where
  clock : Timestamp
  operation : Operation
  deriving DecidableEq, Repr

namespace Desk

def perform (d : Desk) (task : Task) : Except Fault Returned × Desk :=
  task.operation.perform.run { d with clock := task.clock }

/-- What comes back from some tasks in turn, each with its key. -/
def outcomes : Desk → List Task → List (Key × Except Fault Returned)
  | _, [] => []
  | d, task :: rest =>
    (task.operation.key, (d.perform task).1) :: outcomes (d.perform task).2 rest

/-- The desk after some tasks. -/
def performed : Desk → List Task → Desk
  | d, [] => d
  | d, task :: rest => performed (d.perform task).2 rest

/-- The tasks under a key. -/
def tasksUnder (k : Key) (tasks : List Task) : List Task :=
  tasks.filter fun task => task.operation.key = k

variable {k : Key} {d e : Desk} {task : Task}

/-- What two desks keep under a key, at any clock. -/
structure Agree (k : Key) (d e : Desk) : Prop where
  defaults : e.ledger.defaults = d.ledger.defaults
  slot : e.slot k = d.slot k

theorem Agree.at (h : d.Agree k e) (clock : Timestamp) :
    ({ d with clock } : Desk).Alike k { e with clock } :=
  ⟨rfl, h.defaults, h.slot⟩

/-- A task under a key gives one outcome where the same is kept under the key. -/
theorem Agree.perform (h : d.Agree k e) (hkey : task.operation.key = k) :
    (e.perform task).1 = (d.perform task).1 ∧ (d.perform task).2.Agree k (e.perform task).2 := by
  subst hkey
  obtain ⟨hmatched, hlater⟩ := task.operation.under_perform.parallel _ _ (h.at task.clock)
  exact ⟨(Act.Matched.eq hmatched).symm, hlater.defaults, hlater.slot⟩

/-- A task under another key leaves what is kept under a key. -/
theorem Agree.perform_other (h : d.Agree k e) (hkey : task.operation.key ≠ k) :
    (d.perform task).2.Agree k e := by
  have hlater := task.operation.under_perform.leads k hkey.symm { d with clock := task.clock }
  exact ⟨h.defaults.trans hlater.defaults.symm, h.slot.trans hlater.slot.symm⟩

theorem Agree.performed (h : d.Agree k e) (tasks : List Task) :
    e.outcomes (tasksUnder k tasks) = (d.outcomes tasks).filter (fun o => o.1 = k) ∧
    (d.performed tasks).Agree k (e.performed (tasksUnder k tasks)) := by
  -- Desks that agree under the key: a task under it is performed by both, any other only by the first.
  induction tasks generalizing d e with
  | nil => exact ⟨rfl, h⟩
  | cons task rest ih =>
    by_cases hkey : task.operation.key = k
    · obtain ⟨houtcome, hagree⟩ := h.perform hkey
      obtain ⟨houtcomes, hlast⟩ := ih hagree
      have htasks : tasksUnder k (task :: rest) = task :: tasksUnder k rest :=
        List.filter_cons_of_pos (by simpa using hkey)
      rw [htasks]
      refine ⟨?_, hlast⟩
      rw [outcomes, outcomes, List.filter_cons_of_pos (by simpa using hkey), houtcome, houtcomes]
    · obtain ⟨houtcomes, hlast⟩ := ih (h.perform_other hkey)
      have htasks : tasksUnder k (task :: rest) = tasksUnder k rest :=
        List.filter_cons_of_neg (by simpa using hkey)
      rw [htasks]
      refine ⟨?_, hlast⟩
      rw [houtcomes, outcomes, List.filter_cons_of_neg (by simpa using hkey)]

/-- The operations under a key have the outcomes that they have without all others, and leave the
same under it. -/
theorem outcomes_isolated (d : Desk) (tasks : List Task) (k : Key) :
    (d.outcomes tasks).filter (fun o => o.1 = k) = d.outcomes (tasksUnder k tasks) ∧
    (d.performed tasks).slot k = (d.performed (tasksUnder k tasks)).slot k := by
  have hself : d.Agree k d := ⟨rfl, rfl⟩
  obtain ⟨houtcomes, hlast⟩ := hself.performed tasks
  exact ⟨houtcomes.symm, hlast.slot.symm⟩

end Desk

end SalesDesk
