import SalesDesk.Proofs.Catalogue
import SalesDesk.Proofs.Desk.Guarded

/-!
# The double lock of a generation

A generation is locked before and after the generator. The lock before it lets a draft pass whose
action is allowed and whose product is in the catalogue; only then, and only where there is one, the
generator is asked, once, about this product. The lock after it lets a text pass to the client. The
outcome tells which of the two has held.
-/

namespace SalesDesk

open Generation

namespace Generation

variable {guard : Guard} {draft : Draft} {products : List Product} {given : Option Generator}
  {completion : Except CompletionError Completion} {outcome : Outcome}

/-- The code of the first thing that keeps a draft from the generator. -/
def Draft.bar? (draft : Draft) (guard : Guard) (products : List Product)
    (given : Option Generator) : Option String :=
  if draft.action ∉ guard.actions then some "action_not_allowed"
  else if draft.product.getD "" = "" ∨ draft.product ∉ products.map fun p => some p.id then
    some "unknown_product"
  else if given.isNone then some "no_generator"
  else none

/-- The call about a product: the instruction with the product, and the prompt. -/
def Draft.callAbout (draft : Draft) (p : Product) : Call :=
  { messages := [{ role := "system", content := some (systemPrompt ++ productText p) },
      { role := "user", content := draft.prompt }]
    timeout := draft.timeout }

/-- A part of a text, at any place in it. -/
def Carries (text part : String) : Prop := part.toList <:+: text.toList

/-- A call about a product has two messages: an instruction that carries the name, the short
description and the price of the product, and the prompt. A service is sent both as they are. -/
def Call.IsAbout (call : Call) (p : Product) (prompt : Option String) : Prop :=
  ∃ instruction, call.messages =
      [{ role := "system", content := some instruction }, { role := "user", content := prompt }] ∧
    call.messages.map Message.toJson =
      [.obj [("role", .str "system"), ("content", .str instruction)],
        .obj [("role", .str "user"), ("content", prompt.elim .null .str)]] ∧
    Carries instruction p.name ∧ Carries instruction p.shortDescription ∧
    Carries instruction (String.ofList (Decimal.text p.price))

theorem carries_append (before part after : String) : Carries (before ++ part ++ after) part := by
  unfold Carries
  rw [String.toList_append, String.toList_append]
  exact ⟨before.toList, after.toList, rfl⟩

theorem Carries.append_left {text part : String} (h : Carries text part) (before : String) :
    Carries (before ++ text) part := by
  unfold Carries
  rw [String.toList_append]
  exact h.trans (List.suffix_append ..).isInfix

/-- What is said of a product carries its name, its short description and its price. -/
theorem carries_productText (p : Product) : Carries (productText p) p.name ∧
    Carries (productText p) p.shortDescription ∧
    Carries (productText p) (String.ofList (Decimal.text p.price)) := by
  let price := String.ofList (Decimal.text p.price)
  have hname : productText p =
      "\n\nProduit: " ++ p.name ++ ("\n" ++ p.shortDescription ++ "\nPrix: " ++ price) := by
    simp only [productText, price, String.append_assoc]
  have hshort : productText p =
      "\n\nProduit: " ++ p.name ++ "\n" ++ p.shortDescription ++ ("\nPrix: " ++ price) := by
    simp only [productText, price, String.append_assoc]
  have hprice : productText p = "\n\nProduit: " ++ p.name ++ "\n" ++ p.shortDescription ++
      "\nPrix: " ++ price ++ "" := by
    simp only [productText, price, String.append_empty]
  refine ⟨?_, ?_, ?_⟩
  · rw [hname]
    exact carries_append ..
  · rw [hshort]
    exact carries_append ..
  · rw [hprice]
    exact carries_append ..

theorem Draft.isAbout_callAbout (draft : Draft) (p : Product) :
    (draft.callAbout p).IsAbout p draft.prompt := by
  obtain ⟨hname, hshort, hprice⟩ := carries_productText p
  refine ⟨systemPrompt ++ productText p, rfl, ?_, hname.append_left _, hshort.append_left _,
    hprice.append_left _⟩
  unfold callAbout
  cases draft.prompt <;> rfl

/-- How what came back for a draft is judged. -/
inductive Judged (guard : Guard) (draft : Draft) :
    Except CompletionError Completion → Outcome → Prop
  | sent {c : Completion} {text : String} (content : c.content = .str text)
      (passes : guard.after text = .ok text) :
      Judged guard draft (.ok c) ⟨text, true, draft.prompt, some text, none⟩
  | rejected {c : Completion} {text : String} {reason : Rejection} (content : c.content = .str text)
      (fails : guard.after text = .error reason) :
      Judged guard draft (.ok c) ⟨guard.fallback, false, draft.prompt, some text, some reason.code⟩
  | slow : Judged guard draft (.error .timeout)
      ⟨guard.fallback, false, draft.prompt, none, some "generator_timeout"⟩
  | failed {e : CompletionError} (inTime : e ≠ .timeout) : Judged guard draft (.error e)
      ⟨guard.fallback, false, draft.prompt, none, some "generator_error"⟩

theorem Judged.accepted_iff (h : Judged guard draft completion outcome) :
    outcome.accepted = true ↔ ∃ c text, completion = .ok c ∧ c.content = .str text ∧
      guard.after text = .ok text := by
  cases h with
  | @sent c text content passes => exact ⟨fun _ => ⟨c, text, rfl, content, passes⟩, fun _ => rfl⟩
  | @rejected c text reason content fails =>
    refine ⟨nofun, ?_⟩
    rintro ⟨_, other, ⟨⟩, hother, hpasses⟩
    have hsame : text = other := by simpa [content] using hother
    rw [← hsame, fails] at hpasses
    cases hpasses
  | slow => exact ⟨nofun, by rintro ⟨_, _, ⟨⟩, -⟩⟩
  | failed inTime => exact ⟨nofun, by rintro ⟨_, _, ⟨⟩, -⟩⟩

theorem Draft.judged_finish (draft : Draft) (guard : Guard) (elapsed : Binary64)
    (h : IsText completion) :
    ∃ o notices, draft.finish guard elapsed completion = (.ok o, notices) ∧
      Judged guard draft completion o := by
  cases completion with
  | error e =>
    cases e with
    | timeout => exact ⟨_, _, rfl, .slow⟩
    | _ => exact ⟨_, _, rfl, .failed (by simp)⟩
  | ok c =>
    obtain ⟨text, htext⟩ := h c rfl
    cases hafter : guard.after text with
    | error reason =>
      have hwords : Words.ofJson? c.content = some (.text text) := by rw [htext]; rfl
      exact ⟨_, _, draft.finish_of_rejected guard elapsed hwords (Guard.judge_of_after hafter),
        .rejected htext hafter⟩
    | ok sent =>
      cases Guard.eq_of_after hafter
      exact ⟨_, _, draft.finish_of_passes guard elapsed htext hafter, .sent htext hafter⟩

/-! ## Before the generator -/

theorem isValid_iff_mem (products : List Product) (product : Option String) :
    (Catalogue.load products).isValid product = true ↔
      ¬ (product.getD "" = "" ∨ product ∉ products.map fun p => some p.id) := by
  rw [Catalogue.isValid_load_iff, not_or, not_not]
  constructor
  · rintro ⟨id, p, rfl, hne, hfound⟩
    obtain ⟨hmem, hid⟩ := Catalogue.id_of_find?_load hfound
    refine ⟨hne, List.mem_map.mpr ⟨p, hmem, ?_⟩⟩
    rw [hid]
  · rintro ⟨hne, hmem⟩
    obtain ⟨p, hp, rfl⟩ := List.mem_map.mp hmem
    obtain ⟨last, hlast⟩ := Catalogue.exists_find?_load hp
    exact ⟨p.id, last, rfl, hne, hlast⟩

/-- A draft that is kept from the generator falls back under the code of what keeps it. -/
theorem Draft.start_of_bar {code : String} (h : draft.bar? guard products given = some code) :
    ∃ notices, draft.start guard (Catalogue.load products) given =
      .error (⟨guard.fallback, false, draft.prompt, none, some code⟩, notices) := by
  have hvalid := isValid_iff_mem products draft.product
  unfold bar? at h
  unfold start Guard.before
  by_cases haction : draft.action ∈ guard.actions
  · rw [if_neg (not_not.mpr haction)] at h
    by_cases hproduct : draft.product.getD "" = "" ∨ draft.product ∉ products.map fun p => some p.id
    · rw [if_pos hproduct] at h
      cases h
      have hnot : (Catalogue.load products).isValid draft.product = false := by
        rw [← Bool.not_eq_true, hvalid]
        exact not_not.mpr hproduct
      simp only [List.contains_iff_mem.mpr haction, hnot]
      exact ⟨_, rfl⟩
    · rw [if_neg hproduct] at h
      cases given with
      | some generator => cases h
      | none =>
        cases h
        simp only [List.contains_iff_mem.mpr haction, hvalid.mpr hproduct]
        exact ⟨_, rfl⟩
  · rw [if_pos haction] at h
    cases h
    have hnot : guard.actions.contains draft.action = false := by
      rwa [← Bool.not_eq_true, List.contains_iff_mem]
    simp only [hnot]
    exact ⟨_, rfl⟩

/-- A draft that nothing keeps from the generator calls it about the last product of its id. -/
theorem Draft.start_of_open (h : draft.bar? guard products given = none) :
    ∃ generator p, given = some generator ∧ draft.product = some p.id ∧
      (products.reverse.find? fun q => q.id = p.id) = some p ∧
      draft.start guard (Catalogue.load products) given = .ok (generator, draft.callAbout p) := by
  have hvalid := isValid_iff_mem products draft.product
  unfold bar? at h
  have haction : draft.action ∈ guard.actions := by
    by_contra hnot
    rw [if_pos hnot] at h
    cases h
  rw [if_neg (not_not.mpr haction)] at h
  have hproduct : ¬ (draft.product.getD "" = "" ∨
      draft.product ∉ products.map fun p => some p.id) := by
    intro hnot
    rw [if_pos hnot] at h
    cases h
  rw [if_neg hproduct] at h
  cases given with
  | none => cases h
  | some generator =>
    obtain ⟨id, p, hid, hne, hfound⟩ := (Catalogue.isValid_load_iff _ _).mp (hvalid.mpr hproduct)
    obtain ⟨-, hsame⟩ := Catalogue.id_of_find?_load hfound
    subst hsame
    refine ⟨generator, p, rfl, hid, ?_, ?_⟩
    · rw [← Catalogue.find?_load, hfound]
    · have hchat : chat (Catalogue.load products) draft.product draft.prompt =
          [{ role := "system", content := some (systemPrompt ++ productText p) },
            { role := "user", content := draft.prompt }] := by
        simp only [chat, Catalogue.product?, hid, Option.bind_some, hfound, Option.elim_some]
      unfold start Guard.before
      simp only [List.contains_iff_mem.mpr haction, hvalid.mpr hproduct, hchat]
      rfl

end Generation

namespace Desk

variable {d : Desk} {t : Timestamp} {errands : Errands} {guard : Guard} {draft : Draft}
  {products : List Product}

/-- A generator is asked once. A service is sent one request and answers it. A generator of fixed
behaviour gets the call, has its errands run once, and fails where these are stopped. -/
inductive Asked (errands : Errands) (d : Desk) (call : Call) :
    Generator → Except CompletionError Completion → Option Call → Desk → Prop
  | service (s : Service) (request : Generation.Request)
      (asks : request = { messages := call.messages.map Message.toJson
                          timeout := some call.timeout }) :
      Asked errands d call (.service s) (s.complete request d.network.completions) none
        (d.posted [s.post request])
  | rehearsed (behaviour : Behaviour) (list : List Json) :
      Asked errands d call (.rehearsed behaviour list)
        ((errands list d).1.elim behaviour.result fun stopped => .error (.transport stopped))
        (some call) (errands list d).2

theorem exists_asked (hclock : d.clock.toUtc = .ok t) (errands : Errands) (generator : Generator)
    (call : Call) : ∃ completion later records,
      (ask errands generator call).run d = (.ok completion, later.withLog records) ∧
      Asked errands d call generator completion (if generator.isService then none else some call)
        later := by
  cases generator with
  | service s =>
    let request : Generation.Request :=
      { messages := call.messages.map Message.toJson, timeout := some call.timeout }
    refine ⟨_, _, (d.logged t [s.requestNotice request]).outbox.records, ?_,
      .service s request rfl⟩
    exact run_consult hclock s request
  | rehearsed behaviour list =>
    refine ⟨_, _, (errands list d).2.outbox.records, ?_, .rehearsed behaviour list⟩
    cases herrands : errands list d with
    | mk stopped after => cases stopped <;> simp [ask, Act.run, herrands, withLog]

theorem Asked.isText {call : Call} {generator : Generator}
    {completion : Except CompletionError Completion} {kept : Option Call} {later : Desk}
    (h : Asked errands d call generator completion kept later)
    (hanswers : generator.AnswersText d.network) : IsText completion := by
  cases h with
  | service s request => exact hanswers request
  | rehearsed behaviour list =>
    cases (errands list d).1 with
    | none => exact hanswers
    | some stopped => exact isText_error _

private theorem run_generate_of_bar {code : String} (errands : Errands)
    (hcatalogue : d.catalogue = Catalogue.load products)
    (hclock : d.clock.toUtc = .ok t) (hbar : draft.bar? guard products d.generator = some code) :
    ∃ records, (generate errands guard draft).run d =
      (.ok (⟨guard.fallback, false, draft.prompt, none, some code⟩, none), d.withLog records) := by
  have hlook := Act.run_look (fun d => draft.start guard d.catalogue d.generator) d
  obtain ⟨notices, hstart⟩ := Draft.start_of_bar hbar
  rw [hcatalogue, hstart] at hlook
  exact ⟨_, (Act.run_bind_ok hlook).trans (Act.run_bind_ok (run_notify hclock notices))⟩

private theorem run_generate_of_open (hcatalogue : d.catalogue = Catalogue.load products)
    (hclock : d.clock.toUtc = .ok t)
    (hlater : ∃ t, ((generate errands guard draft).run d).2.clock.toUtc = .ok t)
    (htext : ∀ g, d.generator = some g → g.AnswersText d.network)
    (hopen : draft.bar? guard products d.generator = none) :
    ∃ generator p completion o call later records,
      (generate errands guard draft).run d = (.ok (o, call), later.withLog records) ∧
      d.generator = some generator ∧ draft.product = some p.id ∧
      (products.reverse.find? fun q => q.id = p.id) = some p ∧
      Asked errands d (draft.callAbout p) generator completion call later ∧
      Judged guard draft completion o := by
  have hlook := Act.run_look (fun d => draft.start guard d.catalogue d.generator) d
  obtain ⟨generator, p, hgenerator, hproduct, hlast, hstart⟩ := Draft.start_of_open hopen
  obtain ⟨completion, later, records, hask, hasked⟩ :=
    exists_asked hclock errands generator (draft.callAbout p)
  have hrun : (generate errands guard draft).run d =
      (judge guard draft generator (draft.callAbout p) completion).run (later.withLog records) := by
    rw [hcatalogue, hstart] at hlook
    exact (Act.run_bind_ok hlook).trans (Act.run_bind_ok hask)
  -- Judging leaves the clock, so the clock at the end is the one that the errands have left.
  rw [hrun, clock_judge] at hlater
  obtain ⟨last, hread⟩ := hlater
  obtain ⟨o, notices, hfinish, hjudged⟩ :=
    draft.judged_finish guard generationMs (hasked.isText (htext generator hgenerator))
  rw [run_judge hread, hfinish] at hrun
  exact ⟨generator, p, completion, o, _, later, _, hrun, hgenerator, hproduct, hlast, hasked,
    hjudged⟩

end Desk

end SalesDesk
