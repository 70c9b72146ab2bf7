import SalesDesk.Proofs.Desk.Trace
import SalesDesk.Proofs.Desk.Trail
import SalesDesk.Proofs.Except

/-!
# Complete records

A cycle that a client asks for and an entry that a client sends in both name a conversation, a
message, a state and an action. So in a session over a store of complete records all records stay
complete, also in a store that would take others.
-/

namespace SalesDesk

open Quota

namespace Audit

variable {r : Record} {s kept : Store} {added : List Record} {p : Entry → Prop}

theorem Store.forall_mem_append (h : s.append r = .ok kept) (hs : ∀ x ∈ s.records, p x.toEntry)
    (hr : p r.toEntry) : ∀ x ∈ kept.records, p x.toEntry := by
  obtain ⟨new, hrecords, hnew, -⟩ := records_of_append h
  rw [hrecords]
  intro x hx
  rcases List.mem_append.mp hx with hx | hx
  · exact hs x hx
  · rw [List.mem_singleton.mp hx, hnew]
    exact hr

theorem Store.forall_mem_appendAll (h : s.appendAll added = .ok kept)
    (hs : ∀ x ∈ s.records, p x.toEntry) (hadded : ∀ x ∈ added, p x.toEntry) :
    ∀ x ∈ kept.records, p x.toEntry := by
  induction added generalizing s with
  | nil =>
    cases h
    exact hs
  | cons r rest ih =>
    obtain ⟨next, happend, hrest⟩ := appendAll_cons_ok h
    exact ih hrest (forall_mem_append happend hs (hadded r List.mem_cons_self))
      fun x hx => hadded x (List.mem_cons_of_mem _ hx)

end Audit

/-! ## Entries that are sent in -/

namespace Validation.Checked

variable {α β : Type} {f : Checked (α → β)} {x : Checked α} {p : β → Prop}

/-- Whatever is valid satisfies a condition. -/
def All (p : α → Prop) (c : Checked α) : Prop := ∀ a, c = .valid a → p a

theorem all_map {g : α → β} (h : ∀ a, p (g a)) : All p (g <$> x) := by
  intro b hb
  cases x with
  | valid a =>
    cases hb
    exact h a
  | invalid issues => cases hb

theorem all_apply (h : All (fun g => ∀ a, p (g a)) f) : All p (f <*> x) := by
  intro b hb
  cases f with
  | valid g =>
    cases x with
    | valid a =>
      cases hb
      exact h g rfl a
    | invalid issues => cases hb
  | invalid issues => cases x <;> cases hb

end Validation.Checked

namespace Http

open Validation

theorem complete_of_audit {v : Json} {form : AuditForm} (h : Form.audit v = .valid form) :
    form.entry.Complete := by
  unfold Form.audit Rule.object at h
  split at h
  · refine (?_ : Checked.All (fun form : AuditForm => form.entry.Complete) _) form h
    iterate 11 apply Checked.all_apply
    exact Checked.all_map fun _ _ _ _ _ _ _ _ _ _ _ _ => ⟨rfl, rfl, rfl, rfl⟩
  · cases h

theorem complete_of_readBody {content : Option String} {form : AuditForm}
    (h : readBody content Form.audit = .ok form) : form.entry.Complete := by
  unfold readBody at h
  dsimp only at h
  split at h
  · cases h
  · split at h
    · rename_i v _
      cases hread : Form.audit v with
      | valid a =>
        rw [hread] at h
        cases h
        exact complete_of_audit hread
      | invalid issues =>
        rw [hread] at h
        cases h
    · cases h
    · cases h
    · cases h

/-- Only an entry of the client is read as one. -/
theorem body_of_ofEndpoint {e : Endpoint} {query : Table String} {content : Option String}
    {form : AuditForm} (h : Call.ofEndpoint e query content = .ok (.writeAudit form)) :
    readBody content Form.audit = .ok form := by
  cases e with
  | writeAudit =>
    obtain ⟨_, hbody, hform⟩ := bind_eq_ok_iff.mp h
    cases hform
    exact hbody
  | decide | validate | transition | override | cycle | checkQuota | recordSend | loadProducts
  | report =>
    obtain ⟨_, -, hform⟩ := bind_eq_ok_iff.mp h
    cases hform
  | resetDaily | resetWeekly | quotaStatus | products | product | trail | health => cases h

theorem complete_of_writeAudit {r : Request} {form : AuditForm}
    (h : Call.ofRequest r = .ok (.writeAudit form)) : form.entry.Complete := by
  obtain ⟨route, -, -, names, query, hcall⟩ := route_of_ofRequest h
  exact complete_of_readBody (body_of_ofEndpoint hcall)

end Http

/-! ## Sessions -/

namespace Desk

variable {d : Desk} {t : Timestamp}

/-- Every audit record has all its main parts. -/
def Complete (d : Desk) : Prop := ∀ record ∈ d.records, record.toEntry.Complete

theorem complete_of_audit {after : Desk} (h : after.archive.audit = d.archive.audit)
    (hd : d.Complete) : after.Complete := by
  unfold Complete records
  rw [h]
  exact hd

/-- Records that were complete are followed by complete ones only. -/
structure Completes (d after : Desk) : Prop where
  steady : d.Steady after
  complete : d.Complete → after.Complete

theorem completes_of_audit {after : Desk} (hsteady : d.Steady after)
    (h : after.archive.audit = d.archive.audit) : d.Completes after where
  steady := hsteady
  complete := complete_of_audit h

theorem frame_completes : Frame fun _ => Completes where
  steady h := h.steady
  refl _ := completes_of_audit ⟨rfl, rfl⟩ rfl
  mono _ h := h
  trans h hlast :=
    { steady := frame_steady.trans (m := 0) (n := 0) h.steady hlast.steady
      complete := fun hd => hlast.complete (h.complete hd) }
  unnoticed _ _ _ _ _ := completes_of_audit ⟨rfl, rfl⟩ rfl
  entered _ := completes_of_audit ⟨rfl, rfl⟩ rfl
  touched _ _ := completes_of_audit ⟨rfl, rfl⟩ rfl

theorem completes_append {r : Audit.Record} {archive : Archive} (hr : r.toEntry.Complete)
    (h : d.archive.append r = .ok archive) : d.Completes { d with archive } where
  steady := ⟨rfl, rfl⟩
  complete hd := by
    obtain ⟨audit, happend, rfl⟩ := Archive.append_eq_ok h
    exact Audit.Store.forall_mem_append happend hd hr

theorem allows_completes {r : Incoming} (h : r.message.isSome = true) :
    Frame.Allows (fun _ => Completes) r where
  counted _ _ _ _ := completes_of_audit ⟨rfl, rfl⟩ rfl
  moved _ _ := completes_of_audit ⟨rfl, rfl⟩ rfl
  stopped _ := completes_of_audit ⟨rfl, rfl⟩ rfl
  recorded _ _ _ _ hmissing happend :=
    completes_append (Audit.Record.missing?_eq_none_iff.mp (hmissing h)) happend

/-- The entries of a trace are those of the records that are added. -/
theorem Leaves.complete {f : Trace} {n : Nat} {after : Desk} (h : d.Leaves f n after)
    (hf : ∀ e ∈ f.entries, e.Complete) (hd : d.Complete) : after.Complete := by
  obtain ⟨added, -, hentries, hadded⟩ := h.records
  exact Audit.Store.forall_mem_appendAll hadded hd fun r hr => hf _ (hentries r hr)

theorem complete_request (hd : d.Complete) (r : Http.Request) :
    (d.step (.request r)).Complete := by
  have hleaves := Http.leaves_serve d r
  unfold Http.Request.trace at hleaves
  cases hcall : Http.Call.ofRequest r with
  | error m =>
    rw [hcall] at hleaves
    exact hleaves.complete (fun _ h => h.elim) hd
  | ok call =>
    rw [hcall] at hleaves
    cases call with
    | cycle form =>
      have hled : d.Completes ((Http.answerCycle quiet form).run d).2 :=
        frame_completes.leads_answerCycle (fun _ => allows_completes rfl)
          (fun _ _ _ _ h => completes_of_audit ⟨rfl, rfl⟩ (Archive.audit_of_saveUsage h))
          fun _ _ _ _ h => completes_of_audit ⟨rfl, rfl⟩ (Archive.audit_of_saveStatus h)
      have hserve := Http.run_serve_of_call hcall quiet d
      rw [step, hserve]
      exact hled.complete hd
    | writeAudit form =>
      refine hleaves.complete (fun e he => ?_) hd
      rw [Set.mem_singleton_iff.mp he]
      exact Http.complete_of_writeAudit hcall
    | _ => exact hleaves.complete (fun _ h => h.elim) hd

theorem complete_step (hclock : d.clock.toUtc = .ok t) (hd : d.Complete) (turn : Turn) :
    (d.step turn).Complete := by
  cases turn with
  | request r => exact complete_request hd r
  | _ => exact complete_of_audit (audit_step hclock rfl) hd

/-- In a session no record ever misses a main part. -/
theorem complete_through (hd : d.WellFormed) (h : d.Complete) (turns : List Turn) :
    (d.through turns).Complete := by
  induction turns generalizing d with
  | nil => exact h
  | cons turn rest ih =>
    obtain ⟨t, hclock⟩ := hd.clock
    exact ih (wellFormed_step hd turn) (complete_step hclock h turn)

end Desk

end SalesDesk
