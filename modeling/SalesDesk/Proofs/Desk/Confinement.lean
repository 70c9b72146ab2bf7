import SalesDesk.Proofs.Desk.Footprint
import SalesDesk.Proofs.Desk.Frame

/-!
# Acts and their footprints

A well-formed desk changes within a footprint only: this is a frame, and it allows what is in the
footprint. An act on a tenant or a conversation needs it in its footprint only if it changes it.
-/

namespace SalesDesk

open Quota

namespace Desk

variable {f : Footprint} {d after : Desk} {t : Timestamp} {tenant id : String} {a b : Account}

/-- The clock and the replaced processes stay, and a well-formed desk agrees outside of a
footprint. -/
structure Confined (f : Footprint) (d after : Desk) : Prop where
  steady : d.Steady after
  within : d.WellFormed → d.Within f after

theorem frame_confined (f : Footprint) : Frame fun _ => Confined f where
  steady h := h.steady
  refl _ := ⟨⟨rfl, rfl⟩, .refl f⟩
  mono _ h := h
  trans h hlast :=
    ⟨⟨hlast.steady.clock.trans h.steady.clock, hlast.steady.earlier.trans h.steady.earlier⟩,
      fun hd => (h.within hd).trans (hlast.within (h.within hd).wellFormed)⟩
  unnoticed _ _ _ _ hlog :=
    ⟨⟨rfl, rfl⟩, fun hd => within_of_eq hd rfl rfl rfl rfl rfl rfl hd.archive rfl rfl hlog⟩
  entered ha := ⟨⟨rfl, rfl⟩, fun hd => within_entered hd ha⟩
  touched _ _ :=
    ⟨⟨rfl, rfl⟩, fun hd => within_update hd (fun s => s) (fun _ _ => rfl) fun _ s => .refl s⟩

/-- What leads from one desk to another in every frame keeps within every footprint. -/
theorem keeps_of_leads {α : Type} {act : Act α}
    (h : ∀ R : Nat → Desk → Desk → Prop, Frame R → act.Leads (R 0)) : act.Keeps f :=
  fun d hd => (h _ (frame_confined f) d).within hd

theorem total_notify (notices : List Log.Notice) : (notify notices).Total := by
  intro d hd
  obtain ⟨t, hclock⟩ := hd.clock
  exact ⟨(), _, run_notify hclock notices, (within_logged (f := {}) hd t notices).wellFormed⟩

/-! ## Accounts -/

theorem exists_account_of_wellFormed (hd : d.WellFormed) (tenant : String) :
    ∃ a, d.ledger.account tenant d.clock.toUtc = .ok a ∧ a.usage.lastReset.IsUtc := by
  obtain ⟨t, hclock⟩ := hd.clock
  obtain ⟨a, ha⟩ := exists_account hclock tenant
  exact ⟨a, ha, hd.ledger.account hclock ha⟩

theorem confined_withAccount (htenant : tenant ∈ f.tenants)
    (ha : d.ledger.account tenant d.clock.toUtc = .ok a)
    (hlast : b.usage.lastReset = a.usage.lastReset) : d.Confined f (d.withAccount tenant b) := by
  refine ⟨⟨rfl, rfl⟩, fun hd => ?_⟩
  obtain ⟨t, hclock⟩ := hd.clock
  have hutc : b.usage.lastReset.IsUtc := hlast ▸ hd.ledger.account hclock ha
  exact within_withAccount hd hutc fun hout => absurd htenant hout

theorem keeps_trySend (htenant : tenant ∈ f.tenants) (x : Send) : (trySend tenant x).Keeps f :=
  fun d hd => ((frame_confined f).leads_trySend
    (fun _ _ ha _ => confined_withAccount htenant ha rfl) d).within hd

theorem within_of_not_admitted {x : Send} {result : Except Fault Admission} (hd : d.WellFormed)
    (hrun : (trySend tenant x).run d = (result, after))
    (h : ∀ admission, result = .ok admission → admission.allowed = false) :
    d.Within {} after :=
  ((frame_confined {}).of_not_admitted hrun h).within hd

theorem within_runReset (hd : d.WellFormed) (tenant : String) (r : Reset) :
    ∃ usage after, (runReset tenant r).run d = (.ok usage, after) ∧
      ∀ f : Footprint, tenant ∈ f.tenants → d.Within f after := by
  obtain ⟨t, hclock⟩ := hd.clock
  obtain ⟨a, ha, -⟩ := exists_account_of_wellFormed hd tenant
  refine ⟨_, _, run_runReset r ha hclock, fun f hf => ?_⟩
  have hreset : d.Within f (d.withAccount tenant (a.reset r t)) :=
    within_withAccount hd (Timestamp.toUtc_of_toUtc hclock) fun hout => absurd hf hout
  exact hreset.trans (within_logged hreset.wellFormed t _)

/-! ## Conversations -/

theorem keeps_status (id : String) : (status id).Keeps f :=
  keeps_of_leads fun _ hR => hR.leads_status id

theorem confined_moved (hid : id ∈ f.conversations) (d : Desk) (e : Conversation.Event) :
    d.Confined f { d with registry := d.registry.applyEvent id e } := by
  refine ⟨⟨rfl, rfl⟩, fun hd => within_update hd _ (fun hout => absurd hid hout) fun _ s => ?_⟩
  exact ⟨fun hs => Conversation.State.isTerminal_next hs e, fun hs => hs⟩

theorem confined_stopped (hid : id ∈ f.conversations) (d : Desk) :
    d.Confined f { d with registry := d.registry.stop id } := by
  refine ⟨⟨rfl, rfl⟩, fun hd => within_update hd _ (fun hout => absurd hid hout) fun _ s => ?_⟩
  exact ⟨fun hs => hs, fun _ => rfl⟩

theorem confined_overridden (hid : id ∈ f.conversations) (hback : id ∈ f.handedBack) (d : Desk)
    (new : Option Conversation.State) :
    d.Confined f { d with registry := d.registry.override id new } :=
  ⟨⟨rfl, rfl⟩, fun hd => within_update hd _ (fun hout => absurd hid hout) fun hout =>
    absurd hback hout⟩

/-! ## Products and audit records -/

/-- Products are not in a footprint. -/
theorem confined_loaded {catalogue : Catalogue} (d : Desk) : d.Confined f { d with catalogue } :=
  ⟨⟨rfl, rfl⟩, fun hd =>
    within_of_eq hd rfl rfl rfl rfl rfl rfl hd.archive rfl rfl (List.prefix_refl _)⟩

/-- An audit record that is kept leaves the other tables. -/
theorem confined_append {archive : Archive} {r : Audit.Record}
    (h : d.archive.append r = .ok archive) : d.Confined f { d with archive } := by
  obtain ⟨audit, -, rfl⟩ := Archive.append_eq_ok h
  refine ⟨⟨rfl, rfl⟩, fun hd => ?_⟩
  have hkept : ({ d.archive with audit } : Archive).WellFormed :=
    ⟨hd.archive.usages, hd.archive.conversations, hd.archive.lastReset⟩
  exact within_of_eq hd rfl rfl rfl rfl rfl rfl hkept rfl rfl (List.prefix_refl _)

end Desk

end SalesDesk
