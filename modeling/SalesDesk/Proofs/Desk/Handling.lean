import SalesDesk.Proofs.Desk.Course
import SalesDesk.Proofs.Desk.Saving

/-!
# What a cycle changes

With nothing else going on, a cycle changes the account of its tenant and the status of its
conversation, and saves neither. A cycle that ends in a fault has changed nothing: all that can fail
comes before the send is counted.
-/

namespace SalesDesk

open Quota

namespace Desk

variable {f : Footprint} {d : Desk} {r : Incoming}

theorem allows_confined (htenant : r.tenant ∈ f.tenants)
    (hid : r.conversation ∈ f.conversations) : Frame.Allows (fun _ => Confined f) r where
  counted _ _ ha _ := confined_withAccount htenant ha rfl
  moved := confined_moved hid
  stopped := confined_stopped hid
  recorded _ _ _ _ _ h := confined_append h

theorem keeps_settle (htenant : r.tenant ∈ f.tenants) (hid : r.conversation ∈ f.conversations)
    (g : Generation.Outcome) : (settle r g).Keeps f :=
  fun d hd => ((frame_confined f).leads_settle (allows_confined htenant hid) g d).within hd

theorem within_opened (hd : d.WellFormed) (r : Incoming) : d.Within f (d.opened r) :=
  ((frame_confined f).opened d r).within hd

theorem keeps_cycle (htenant : r.tenant ∈ f.tenants) (hid : r.conversation ∈ f.conversations) :
    (cycle quiet r).Keeps f :=
  fun d hd => ((frame_confined f).leads_cycle (allows_confined htenant hid) d).within hd

theorem atomic_cycle (r : Incoming) : (cycle quiet r).Atomic := by
  intro d e after hd hfault
  obtain ⟨t, hclock⟩ := hd.clock
  refine ((frame_confined {}).spares_cycle r d t _ after hclock hfault fun o h => ?_).within hd
  cases h

end Desk

end SalesDesk
