import SalesDesk.Proofs.Desk.History
import SalesDesk.Desk.Cycle
import Mathlib.Logic.Function.Basic

/-!
# What is seen of a desk

The view of a desk is what the acts of a cycle read and what they change in one place: clock,
settings, network, processes, posts, and for every tenant and conversation its counters, limits and
status. Log records, drawn numbers and the archive are left out, and so is the order in which
tenants and conversations were entered: entering one changes no view.
-/

namespace SalesDesk

open Quota

namespace Act

variable {α β : Type} {act : Act α} {next : α → Act β} {d : Desk}
  {p : α → Desk → Prop} {q : β → Desk → Prop}

/-- An act has a result, and the result and the desk afterwards satisfy a condition. -/
def Yields (act : Act α) (d : Desk) (post : α → Desk → Prop) : Prop :=
  ∃ a later, act.run d = (.ok a, later) ∧ post a later

theorem yields_pure {a : α} (h : p a d) : (pure a : Act α).Yields d p :=
  ⟨a, d, rfl, h⟩

theorem yields_look (f : Desk → α) (h : p (f d) d) : (look f).Yields d p :=
  ⟨f d, d, rfl, h⟩

theorem yields_change (f : Desk → Desk) {p : Unit → Desk → Prop} (h : p () (f d)) :
    (change f).Yields d p :=
  ⟨(), f d, rfl, h⟩

theorem yields_ofExcept {ε : Type} {fault : ε → Fault} {a : α} (h : p a d) :
    (ofExcept fault (.ok a)).Yields d p :=
  ⟨a, d, rfl, h⟩

theorem Yields.bind (h : act.Yields d p)
    (hnext : ∀ a later, p a later → (next a).Yields later q) :
    (act >>= next).Yields d q := by
  obtain ⟨a, later, hrun, hpost⟩ := h
  obtain ⟨b, last, hlast, hfinal⟩ := hnext a later hpost
  exact ⟨b, last, (run_bind_ok hrun).trans hlast, hfinal⟩

theorem Yields.mono {weaker : α → Desk → Prop} (h : act.Yields d p)
    (himp : ∀ a later, p a later → weaker a later) : act.Yields d weaker := by
  obtain ⟨a, later, hrun, hpost⟩ := h
  exact ⟨a, later, hrun, himp a later hpost⟩

end Act

/-- What the acts of a cycle read of a desk, and change of it in one place. -/
structure View where
  clock : Timestamp
  settings : Settings
  network : Network
  earlier : List Process
  posts : List Post
  counters : String → Snapshot
  limits : String → Limits
  status : String → Conversation.Status

def View.canSend (v : View) (tenant : String) : Bool :=
  (v.counters tenant).canSendMessage (v.limits tenant)

namespace Desk

def view (d : Desk) : View :=
  { clock := d.clock
    settings := d.settings
    network := d.network
    earlier := d.earlier
    posts := d.outbox.posts
    counters := d.ledger.counters
    limits := d.ledger.limitsOf
    status := d.registry.status }

variable {d : Desk} {v : View} {t : Timestamp} {tenant : String} {a : Account}

/-- An account changes the counters of its tenant in the view, and nothing else. -/
theorem view_withAccount (h : a.limits = d.ledger.limitsOf tenant) :
    (d.withAccount tenant a).view =
      { d.view with counters := Function.update d.view.counters tenant a.snapshot } := by
  have hcounters : (d.withAccount tenant a).ledger.counters =
      Function.update d.ledger.counters tenant a.snapshot := by
    funext other
    by_cases hother : other = tenant
    · subst hother
      rw [counters_withAccount, Function.update_self]
    · rw [Function.update_of_ne hother]
      simp only [Ledger.counters, withAccount, Table.find?_put_of_ne _ _ (Ne.symm hother)]
  have hlimits : (d.withAccount tenant a).ledger.limitsOf = d.ledger.limitsOf := by
    funext other
    by_cases hother : other = tenant
    · subst hother
      rw [limitsOf_withAccount, h]
    · simp only [Ledger.limitsOf, withAccount, Table.find?_put_of_ne _ _ (Ne.symm hother)]
  simp only [view, hcounters, hlimits]
  rfl

/-- Entering a tenant, or entering it again, changes no view. -/
theorem view_entered (h : d.ledger.account tenant d.clock.toUtc = .ok a) :
    (d.withAccount tenant a).view = d.view := by
  rw [view_withAccount (Ledger.limitsOf_of_account h).symm, ← Ledger.counters_of_account h]
  exact congrArg (fun c => { d.view with counters := c }) (Function.update_eq_self _ _)

theorem exists_account (h : d.clock.toUtc = .ok t) (tenant : String) :
    ∃ a, d.ledger.account tenant d.clock.toUtc = .ok a := by
  rw [h]
  unfold Ledger.account
  cases d.ledger.accounts.find? tenant with
  | none => exact ⟨_, rfl⟩
  | some a => exact ⟨a, rfl⟩

theorem view_update (f : Conversation.Status → Conversation.Status) (id : String) :
    ({ d with registry := d.registry.update id f } : Desk).view =
      { d.view with status := Function.update d.view.status id (f (d.view.status id)) } := by
  have hstatus : (d.registry.update id f).status =
      Function.update d.registry.status id (f (d.registry.status id)) := by
    funext other
    by_cases hother : other = id
    · subst hother
      rw [Conversation.Registry.status_update_self, Function.update_self]
    · rw [Conversation.Registry.status_update_of_ne _ _ (Ne.symm hother),
        Function.update_of_ne hother]
  simp only [view, hstatus]

theorem view_touch (id : String) :
    ({ d with registry := d.registry.touch id } : Desk).view = d.view := by
  rw [Conversation.Registry.touch, view_update, Function.update_eq_self]

/-! ## Processes -/

/-- A desk as the process with a number sees it. -/
def seenBy (d : Desk) (number : Nat) : Desk :=
  match d.earlier[number]? with
  | none => d
  | some process => { d with toProcess := process }

theorem seenBy_number (d : Desk) : d.seenBy d.number = d := by
  simp [seenBy, number]

theorem clock_seenBy (d : Desk) (number : Nat) : (d.seenBy number).clock = d.clock := by
  unfold seenBy
  cases d.earlier[number]? <;> rfl

theorem earlier_seenBy (d : Desk) (number : Nat) : (d.seenBy number).earlier = d.earlier := by
  unfold seenBy
  cases d.earlier[number]? <;> rfl

/-- What an act does in a process that was replaced in the meantime is seen by that process. -/
theorem yields_onProcess {α : Type} {act : Act α} {number : Nat} {post : α → Desk → Prop}
    (h : act.Yields (d.seenBy number) post)
    (hkept : ∀ a later, post a later → later.earlier = d.earlier) :
    (onProcess number act).Yields d fun a later =>
      ∃ inner earlier, later.seenBy number = { inner with earlier } ∧ post a inner := by
  obtain ⟨a, inner, hrun, hpost⟩ := h
  have hearlier := hkept a inner hpost
  unfold seenBy at hrun
  cases hfound : d.earlier[number]? with
  | none =>
    rw [hfound] at hrun
    refine ⟨a, inner, ?_, inner, inner.earlier, ?_, hpost⟩
    · simp only [Act.run, onProcess, hfound]
      exact hrun
    · simp only [seenBy, hearlier, hfound]
      rw [← hearlier]
  | some process =>
    rw [hfound] at hrun
    have hinside : number < inner.earlier.length := by
      rw [hearlier]
      exact (List.getElem?_eq_some_iff.mp hfound).1
    refine ⟨a, { inner with
        toProcess := d.toProcess
        earlier := inner.earlier.set number inner.toProcess }, ?_, inner,
      inner.earlier.set number inner.toProcess, ?_, hpost⟩
    · have hact : act { d with toProcess := process } = (.ok a, inner) := hrun
      simp only [Act.run, onProcess, hfound, hact]
    · simp only [seenBy, List.getElem?_set_self hinside]

/-! ## Acts that change no view -/

theorem yields_now (hv : d.view = v) (hclock : v.clock.toUtc = .ok t) :
    now.Yields d fun time later => time = t ∧ later.view = v := by
  subst hv
  exact ⟨t, d, run_now hclock, rfl, rfl⟩

theorem yields_notify (hv : d.view = v) (hclock : v.clock.toUtc = .ok t)
    (notices : List Log.Notice) : (notify notices).Yields d fun _ later => later.view = v := by
  subst hv
  exact ⟨(), d.logged t notices, run_notify hclock notices, rfl⟩

theorem yields_account {β : Type} (hv : d.view = v) (hclock : v.clock.toUtc = .ok t)
    (tenant : String) (g : Account → β) : (account tenant g).Yields d fun b later =>
      (∃ a, d.ledger.account tenant d.clock.toUtc = .ok a ∧ b = g a) ∧ later.view = v := by
  subst hv
  obtain ⟨a, ha⟩ := exists_account hclock tenant
  exact ⟨g a, d.withAccount tenant a, run_account ha g, ⟨a, ha, rfl⟩, view_entered ha⟩

theorem yields_snapshot (hv : d.view = v) (hclock : v.clock.toUtc = .ok t) (tenant : String) :
    (snapshot tenant).Yields d fun s later => s = v.counters tenant ∧ later.view = v := by
  refine (yields_account hv hclock tenant _).mono fun s later h => ?_
  obtain ⟨⟨a, ha, rfl⟩, hview⟩ := h
  subst hv
  exact ⟨(Ledger.counters_of_account ha).symm, hview⟩

theorem yields_status (hv : d.view = v) (id : String) :
    (status id).Yields d fun s later => s = v.status id ∧ later.view = v := by
  subst hv
  exact ⟨_, _, rfl, rfl, view_touch id⟩

theorem yields_send (hv : d.view = v) (posts : List Post) :
    (send posts).Yields d fun _ later => later.view = { v with posts := v.posts ++ posts } := by
  subst hv
  exact ⟨_, _, rfl, rfl⟩

theorem yields_keepRecord (hv : d.view = v) (hclock : v.clock.toUtc = .ok t) (r : Audit.Record) :
    (keepRecord r).Yields d fun _ later => later.view = v := by
  unfold keepRecord
  refine (Act.yields_look (p := fun _ later => later.view = v) _ hv).bind fun kept later h => ?_
  cases kept with
  | ok archive =>
    refine (Act.yields_change (p := fun _ last => last.view = v) _ h).bind fun _ last hlast => ?_
    exact (yields_notify hlast hclock _).bind fun _ _ hend => Act.yields_pure hend
  | error e => exact (yields_notify h hclock _).bind fun _ _ hend => Act.yields_pure hend

/-- A record is made with a time of universal time. -/
theorem yields_makeRecord (hv : d.view = v) (hclock : v.clock.toUtc = .ok t) (e : Audit.Entry) :
    (makeRecord e (some t)).Yields d fun _ later => later.view = v := by
  have htime : t.asUtc = .ok t := by
    have hsame := Timestamp.toUtc_of_toUtc hclock
    obtain ⟨rfl, -⟩ := Timestamp.toUtc_eq_ok hclock
    exact hsame
  unfold makeRecord
  refine (Act.yields_change (p := fun _ later => later.view = v) _ hv).bind fun _ later h => ?_
  refine (Act.yields_look (p := fun _ last => last.view = v) _ h).bind fun _ last hlast => ?_
  simp only [htime]
  refine (Act.yields_ofExcept (p := fun _ end_ => end_.view = v) hlast).bind fun _ _ hend => ?_
  exact Act.yields_pure hend

end Desk

end SalesDesk
