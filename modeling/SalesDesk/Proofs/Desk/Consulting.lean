import SalesDesk.Desk.Cycle
import SalesDesk.Proofs.Desk.Acts
import SalesDesk.Proofs.Except

/-!
# Consulting a completion service

A service gets one request for each time it is consulted. Its answer counts only with the status for
success and with a content in the message of the first choice. A body of any other shape is a
failure, and so is a content that counts as empty.
-/

namespace SalesDesk

namespace Generation

variable {name : String} {body value found content : Json}

/-- The content that a body offers: that of the message of its first choice, where it does not count
as empty. -/
inductive Offers (content : Json) : Json → Prop
  | of (members choice message : List (String × Json)) (rest : List Json)
      (choices : Table.find? members "choices" = some (.arr (.obj choice :: rest)))
      (first : Table.find? choice "message" = some (.obj message))
      (held : Table.find? message "content" = some content)
      (truthy : content.truthy = true) : Offers content (.obj members)

/-- A member that does not count as empty is one of an object and is not missing there. -/
theorem exists_find?_of_member (h : member name value = .ok found) (htruthy : found.truthy = true) :
    ∃ members, value = .obj members ∧ Table.find? members name = some found := by
  cases value with
  | obj members =>
    cases hfound : Table.find? members name with
    | none =>
      simp only [member, hfound, Option.getD_none, Except.ok.injEq] at h
      subst h
      cases htruthy
    | some given =>
      simp only [member, hfound, Option.getD_some, Except.ok.injEq] at h
      exact ⟨members, rfl, by rw [hfound, h]⟩
  | _ => cases h

theorem member_of_find? {members : List (String × Json)}
    (h : Table.find? members name = some found) : member name (.obj members) = .ok found := by
  simp only [member, h, Option.getD_some]

theorem exists_rest_of_firstItem {members : List (String × Json)}
    (h : firstItem value = .ok (.obj members)) : ∃ rest, value = .arr (.obj members :: rest) := by
  unfold firstItem at h
  split at h <;> cases h
  exact ⟨_, rfl⟩

theorem contentOf_iff_offers :
    (contentOf body = .ok content ∧ content.truthy = true) ↔ Offers content body := by
  constructor
  · rintro ⟨h, htruthy⟩
    obtain ⟨choices, hchoices, hfirst⟩ := bind_eq_ok_iff.mp h
    split at hfirst
    · rename_i hsome
      obtain ⟨choice, hchoice, hspoken⟩ := bind_eq_ok_iff.mp hfirst
      obtain ⟨message, hmessage, hheld⟩ := bind_eq_ok_iff.mp hspoken
      split at hheld
      · rename_i hspeaks
        obtain ⟨members, rfl, hmembers⟩ := exists_find?_of_member hchoices hsome
        obtain ⟨first, rfl, hfound⟩ := exists_find?_of_member hmessage hspeaks
        obtain ⟨parts, rfl, hparts⟩ := exists_find?_of_member hheld htruthy
        obtain ⟨rest, rfl⟩ := exists_rest_of_firstItem hchoice
        exact .of members first parts rest hmembers hfound hparts htruthy
      · cases hheld
        cases htruthy
    · cases hfirst
      cases htruthy
  · rintro ⟨members, choice, message, rest, hchoices, hfirst, hheld, htruthy⟩
    have hspeaks : (Json.obj message).truthy = true := by
      cases message with
      | nil => cases hheld
      | cons entry others => rfl
    refine ⟨bind_eq_ok_iff.mpr ⟨_, member_of_find? hchoices, (if_pos rfl).trans ?_⟩, htruthy⟩
    refine bind_eq_ok_iff.mpr ⟨_, rfl, bind_eq_ok_iff.mpr ⟨_, member_of_find? hfirst, ?_⟩⟩
    exact (if_pos hspeaks).trans (member_of_find? hheld)

theorem Offers.truthy (h : Offers content body) : content.truthy = true :=
  (contentOf_iff_offers.mpr h).2

/-- The completion with a content, in a body that also tells the model and the usage. -/
def Completion.around (model : String) (body content : Json) : Completion where
  content
  model := (body.get? "model").getD (.str model)
  usage := (body.get? "usage").getD .null

theorem Completion.ofAnswer_of_ne {code : Int} (model : String) (body : Json) (h : code ≠ 200) :
    ofAnswer model (.status code body) = .error (.status code) := if_pos h

theorem Completion.ofAnswer_eq_ok_iff {model : String} {code : Int} {c : Completion} :
    ofAnswer model (.status code body) = .ok c ↔
      code = 200 ∧ ∃ content, Offers content body ∧ c = around model body content := by
  by_cases hcode : code = 200
  · subst hcode
    change (contentOf body >>= _) = _ ↔ _
    rw [bind_eq_ok_iff]
    simp only [true_and]
    refine exists_congr fun content => ?_
    rw [← contentOf_iff_offers, and_assoc]
    refine and_congr_right fun _ => ?_
    by_cases htruthy : content.truthy = true
    · rw [if_pos htruthy, and_iff_right htruthy]
      exact ⟨fun h => (Except.ok.inj h).symm, fun h => congrArg Except.ok h.symm⟩
    · rw [if_neg htruthy]
      exact ⟨nofun, fun h => absurd h.1 htruthy⟩
  · rw [ofAnswer_of_ne model body hcode]
    exact ⟨nofun, fun h => absurd h.1 hcode⟩

end Generation

namespace Desk

open Generation

variable {d : Desk} {t : Timestamp}

/-- The desk after requests to other services. -/
def posted (d : Desk) (posts : List Post) : Desk :=
  { d with outbox := { d.outbox with posts := d.outbox.posts ++ posts } }

theorem run_consult (hclock : d.clock.toUtc = .ok t) (s : Service) (request : Generation.Request) :
    (consult s request).run d =
      (.ok (s.complete request d.network.completions),
        (d.logged t [s.requestNotice request]).posted [s.post request]) := by
  unfold consult
  rw [Act.run_bind_ok (run_notify hclock _)]
  rfl

end Desk

end SalesDesk
