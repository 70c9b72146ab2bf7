import SalesDesk.Proofs.Conversation.Runs
import SalesDesk.Proofs.Desk.View
import SalesDesk.Proofs.Table
import Mathlib.Data.Set.Basic

/-!
# Footprints

What acts change of the things that matter later: the accounts of tenants, the status of
conversations, and the rows in which both are saved. A footprint names those that may change.
Outside of it everything stays as it is, except that a tenant that is asked about is entered with an
account without sends. A conversation that is left to humans stays with them unless it is handed
back, and what is in the log stays there.
-/

namespace SalesDesk

open Quota

/-- A reading of a clock of universal time, within the calendar. -/
def Timestamp.IsUtc (t : Timestamp) : Prop := t.toUtc = .ok t

namespace Conversation

/-- A conversation is left to humans. -/
def Status.Halted (s : Status) : Prop := s.state.isTerminal = true ∨ s.stopped = true

instance (s : Status) : Decidable s.Halted := inferInstanceAs (Decidable (_ ∨ _))

/-- A later status has what leaves a conversation to humans in an earlier one. -/
structure Status.HaltKept (s later : Status) : Prop where
  terminal : s.state.isTerminal = true → later.state.isTerminal = true
  stopped : s.stopped = true → later.stopped = true

namespace Status.HaltKept

variable {s later last : Status}

theorem refl (s : Status) : s.HaltKept s := ⟨id, id⟩

theorem trans (h : s.HaltKept later) (hlast : later.HaltKept last) : s.HaltKept last :=
  ⟨fun hs => hlast.terminal (h.terminal hs), fun hs => hlast.stopped (h.stopped hs)⟩

theorem halted (h : s.HaltKept later) (hs : s.Halted) : later.Halted :=
  hs.imp h.terminal h.stopped

end Status.HaltKept

end Conversation

/-! ## Well-formed desks -/

structure Quota.Ledger.WellFormed (l : Ledger) : Prop where
  names : l.accounts.names.Nodup
  lastReset : ∀ tenant a, l.accounts.find? tenant = some a → a.usage.lastReset.IsUtc

structure Archive.WellFormed (a : Archive) : Prop where
  usages : a.usages.names.Nodup
  conversations : a.conversations.names.Nodup
  lastReset : ∀ tenant row, a.usages.find? tenant = some row → row.usage.lastReset.IsUtc

theorem Archive.wellFormed_empty (audit : Audit.Store) : ({ audit } : Archive).WellFormed :=
  ⟨List.nodup_nil, List.nodup_nil, nofun⟩

/-- The clock can be read, names stand for one thing each, and resets are in universal time. -/
structure Desk.WellFormed (d : Desk) : Prop where
  clock : ∃ t, d.clock.toUtc = .ok t
  ledger : d.ledger.WellFormed
  archive : d.archive.WellFormed

theorem Quota.Ledger.WellFormed.put {l : Ledger} (h : l.WellFormed) {tenant : String} {a : Account}
    (ha : a.usage.lastReset.IsUtc) :
    ({ l with accounts := l.accounts.put tenant a } : Ledger).WellFormed := by
  refine ⟨Table.nodup_names_put h.names, fun other b hb => ?_⟩
  by_cases hother : tenant = other
  · subst hother
    have hsame : a = b := by simpa [Table.find?_put_self] using hb
    rwa [← hsame]
  · simp only [Table.find?_put_of_ne _ _ hother] at hb
    exact h.lastReset other b hb

theorem Quota.Ledger.WellFormed.account {l : Ledger} (h : l.WellFormed) {tenant : String}
    {clock t : Timestamp} {a : Account} (hclock : clock.toUtc = .ok t)
    (ha : l.account tenant clock.toUtc = .ok a) : a.usage.lastReset.IsUtc := by
  unfold Ledger.account at ha
  cases hfound : l.accounts.find? tenant with
  | some b =>
    simp only [hfound, Except.ok.injEq] at ha
    exact ha ▸ h.lastReset tenant b hfound
  | none =>
    simp only [hfound, hclock, Except.map, Except.ok.injEq] at ha
    exact ha ▸ Timestamp.toUtc_of_toUtc hclock

/-! ## What stays as it is -/

/-- The tenants and conversations that an act may change: their accounts and statuses, those that it
may hand back to automation, and their rows. -/
structure Footprint where
  tenants : Set String := ∅
  conversations : Set String := ∅
  handedBack : Set String := ∅
  usages : Set String := ∅
  statuses : Set String := ∅

namespace Desk

/-- Two desks agree outside of a footprint. -/
structure Within (f : Footprint) (d after : Desk) : Prop where
  wellFormed : after.WellFormed
  settings : after.settings = d.settings
  given : after.given = d.given
  earlier : after.earlier = d.earlier
  clock : after.clock = d.clock
  account : ∀ tenant, tenant ∉ f.tenants →
    after.ledger.accounts.find? tenant = d.ledger.accounts.find? tenant ∨
    d.ledger.accounts.find? tenant = none ∧
      ∃ a, after.ledger.accounts.find? tenant = some a ∧ a.snapshot = {}
  status : ∀ id, id ∉ f.conversations → after.registry.status id = d.registry.status id
  halt : ∀ id, id ∉ f.handedBack → (d.registry.status id).HaltKept (after.registry.status id)
  usage : ∀ tenant, tenant ∉ f.usages →
    after.archive.usages.find? tenant = d.archive.usages.find? tenant
  saved : ∀ id, id ∉ f.statuses →
    after.archive.conversations.find? id = d.archive.conversations.find? id
  log : d.outbox.records <+: after.outbox.records

variable {f : Footprint} {d after last : Desk} {tenant id : String} {a b : Account}

/-- A desk that differs in nothing that a footprint is about. -/
theorem within_of_eq (h : d.WellFormed) (hsettings : after.settings = d.settings)
    (hgiven : after.given = d.given) (hearlier : after.earlier = d.earlier)
    (hclock : after.clock = d.clock) (hledger : after.ledger = d.ledger)
    (hregistry : after.registry = d.registry) (harchive : after.archive.WellFormed)
    (husages : after.archive.usages = d.archive.usages)
    (hconversations : after.archive.conversations = d.archive.conversations)
    (hlog : d.outbox.records <+: after.outbox.records) : d.Within f after where
  wellFormed := ⟨hclock ▸ h.clock, hledger ▸ h.ledger, harchive⟩
  settings := hsettings
  given := hgiven
  earlier := hearlier
  clock := hclock
  account _ _ := Or.inl (by rw [hledger])
  status _ _ := by rw [hregistry]
  halt _ _ := hregistry ▸ .refl _
  usage _ _ := by rw [husages]
  saved _ _ := by rw [hconversations]
  log := hlog

theorem Within.refl (f : Footprint) (h : d.WellFormed) : d.Within f d :=
  within_of_eq h rfl rfl rfl rfl rfl rfl h.archive rfl rfl (List.prefix_refl _)

theorem Within.trans (h : d.Within f after) (hlast : after.Within f last) : d.Within f last where
  wellFormed := hlast.wellFormed
  settings := hlast.settings.trans h.settings
  given := hlast.given.trans h.given
  earlier := hlast.earlier.trans h.earlier
  clock := hlast.clock.trans h.clock
  account tenant htenant := by
    -- A tenant is entered in one of the two steps at most.
    rcases hlast.account tenant htenant with hsame | ⟨hnew, hentered⟩
    · rw [hsame]
      exact h.account tenant htenant
    · rcases h.account tenant htenant with hbefore | ⟨-, a, hknown, -⟩
      · exact Or.inr ⟨hbefore.symm.trans hnew, hentered⟩
      · simp [hnew] at hknown
  status id hid := (hlast.status id hid).trans (h.status id hid)
  halt id hid := (h.halt id hid).trans (hlast.halt id hid)
  usage tenant htenant := (hlast.usage tenant htenant).trans (h.usage tenant htenant)
  saved id hid := (hlast.saved id hid).trans (h.saved id hid)
  log := h.log.trans hlast.log

/-- What leaves everything as it is stays in every footprint. -/
theorem Within.widen (h : d.Within {} after) : d.Within f after :=
  { h with
    account := fun tenant _ => h.account tenant (Set.notMem_empty tenant)
    status := fun id _ => h.status id (Set.notMem_empty id)
    halt := fun id _ => h.halt id (Set.notMem_empty id)
    usage := fun tenant _ => h.usage tenant (Set.notMem_empty tenant)
    saved := fun id _ => h.saved id (Set.notMem_empty id) }

/-- What stays in a footprint stays in a larger one. -/
theorem Within.mono {g : Footprint} (h : d.Within f after) (htenants : f.tenants ⊆ g.tenants)
    (hconversations : f.conversations ⊆ g.conversations) (hback : f.handedBack ⊆ g.handedBack)
    (husages : f.usages ⊆ g.usages) (hstatuses : f.statuses ⊆ g.statuses) : d.Within g after :=
  { h with
    account := fun tenant hout => h.account tenant fun hin => hout (htenants hin)
    status := fun id hout => h.status id fun hin => hout (hconversations hin)
    halt := fun id hout => h.halt id fun hin => hout (hback hin)
    usage := fun tenant hout => h.usage tenant fun hin => hout (husages hin)
    saved := fun id hout => h.saved id fun hin => hout (hstatuses hin) }

theorem Within.known (h : d.Within f after) (htenant : tenant ∉ f.tenants)
    (ha : d.ledger.accounts.find? tenant = some a) :
    after.ledger.accounts.find? tenant = some a := by
  rcases h.account tenant htenant with hsame | ⟨hnew, -⟩
  · exact hsame.trans ha
  · simp [ha] at hnew

theorem Within.counters (h : d.Within f after) (htenant : tenant ∉ f.tenants) :
    after.ledger.counters tenant = d.ledger.counters tenant := by
  unfold Ledger.counters
  rcases h.account tenant htenant with hsame | ⟨hnew, a, ha, hunused⟩
  · rw [hsame]
  · simp [hnew, ha, hunused]

theorem within_logged (h : d.WellFormed) (t : Timestamp) (notices : List Log.Notice) :
    d.Within f (d.logged t notices) :=
  within_of_eq h rfl rfl rfl rfl rfl rfl h.archive rfl rfl (List.prefix_append _ _)

/-- An account that is changed, or a new one without sends. -/
theorem within_withAccount (h : d.WellFormed) (hutc : b.usage.lastReset.IsUtc)
    (htenant : tenant ∉ f.tenants → d.ledger.accounts.find? tenant = some b ∨
      d.ledger.accounts.find? tenant = none ∧ b.snapshot = {}) :
    d.Within f (d.withAccount tenant b) where
  wellFormed := ⟨h.clock, h.ledger.put hutc, h.archive⟩
  settings := rfl
  given := rfl
  earlier := rfl
  clock := rfl
  account other hother := by
    by_cases hsame : tenant = other
    · subst hsame
      have hput : (d.withAccount tenant b).ledger.accounts.find? tenant = some b :=
        Table.find?_put_self ..
      rcases htenant hother with hknown | ⟨hnew, hunused⟩
      · exact Or.inl (hput.trans hknown.symm)
      · exact Or.inr ⟨hnew, b, hput, hunused⟩
    · exact Or.inl (Table.find?_put_of_ne _ _ hsame)
  status _ _ := rfl
  halt _ _ := .refl _
  usage _ _ := rfl
  saved _ _ := rfl
  log := List.prefix_refl _

/-- Entering a tenant, or entering it again. -/
theorem within_entered (h : d.WellFormed) (ha : d.ledger.account tenant d.clock.toUtc = .ok a) :
    d.Within f (d.withAccount tenant a) := by
  obtain ⟨t, hclock⟩ := h.clock
  refine within_withAccount h (h.ledger.account hclock ha) fun _ => ?_
  unfold Ledger.account at ha
  cases hfound : d.ledger.accounts.find? tenant with
  | some b =>
    simp only [hfound, Except.ok.injEq] at ha
    exact Or.inl (congrArg some ha)
  | none =>
    simp only [hfound, hclock, Except.map, Except.ok.injEq] at ha
    exact Or.inr ⟨rfl, ha ▸ rfl⟩

theorem within_update (h : d.WellFormed) (g : Conversation.Status → Conversation.Status)
    (hid : id ∉ f.conversations → ∀ s, g s = s)
    (hhalt : id ∉ f.handedBack → ∀ s : Conversation.Status, s.HaltKept (g s)) :
    d.Within f { d with registry := d.registry.update id g } where
  wellFormed := ⟨h.clock, h.ledger, h.archive⟩
  settings := rfl
  given := rfl
  earlier := rfl
  clock := rfl
  account _ _ := Or.inl rfl
  status other hother := by
    by_cases hsame : id = other
    · subst hsame
      simp only [Conversation.Registry.status_update_self, hid hother]
    · exact Conversation.Registry.status_update_of_ne _ _ hsame
  halt other hother := by
    by_cases hsame : id = other
    · subst hsame
      simp only [Conversation.Registry.status_update_self]
      exact hhalt hother _
    · simp only [Conversation.Registry.status_update_of_ne _ _ hsame]
      exact .refl _
  usage _ _ := rfl
  saved _ _ := rfl
  log := List.prefix_refl _

end Desk

/-! ## Acts that keep within a footprint -/

namespace Act

variable {α β : Type} {f : Footprint} {act : Act α} {next : α → Act β}

/-- Whatever becomes of an act, a well-formed desk changes in a footprint only. -/
def Keeps (f : Footprint) (act : Act α) : Prop :=
  ∀ d : Desk, d.WellFormed → d.Within f (act.run d).2

/-- On a well-formed desk an act has a result, and leaves a well-formed desk. -/
def Total (act : Act α) : Prop :=
  ∀ d : Desk, d.WellFormed → ∃ a after, act.run d = (.ok a, after) ∧ after.WellFormed

/-- A fault of an act leaves everything as it was. -/
def Atomic (act : Act α) : Prop :=
  ∀ (d : Desk) (e : Fault) (after : Desk), d.WellFormed → act.run d = (.error e, after) →
    d.Within {} after

theorem keeps_pure (a : α) : (pure a : Act α).Keeps f := fun _ h => .refl f h

theorem keeps_fail (e : Fault) : (fail e : Act α).Keeps f := fun _ h => .refl f h

theorem keeps_ofExcept {ε : Type} (fault : ε → Fault) (r : Except ε α) :
    (ofExcept fault r).Keeps f := by
  cases r with
  | ok a => exact keeps_pure a
  | error e => exact keeps_fail (fault e)

theorem Keeps.bind (h : act.Keeps f) (hnext : ∀ a, (next a).Keeps f) : (act >>= next).Keeps f := by
  intro d hd
  have hact := h d hd
  cases hrun : act.run d with
  | mk result later =>
    rw [hrun] at hact
    cases result with
    | error e =>
      rw [run_bind_error hrun]
      exact hact
    | ok a =>
      rw [run_bind_ok hrun]
      exact hact.trans (hnext a later hact.wellFormed)

theorem total_look (g : Desk → α) : (look g).Total := fun d hd => ⟨g d, d, rfl, hd⟩

theorem Total.bind (h : act.Total) (hnext : ∀ a, (next a).Total) : (act >>= next).Total := by
  intro d hd
  obtain ⟨a, later, hrun, hlater⟩ := h d hd
  rw [run_bind_ok hrun]
  exact hnext a later hlater

end Act

end SalesDesk
