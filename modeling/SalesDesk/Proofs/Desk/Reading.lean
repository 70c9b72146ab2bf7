import SalesDesk.Proofs.Desk.Completeness
import SalesDesk.Proofs.Http.Address
import SalesDesk.Proofs.Time.Texts

/-!
# Reading trails

The trail of a conversation is read at a path that ends in the id of the conversation. Paths are
looked up in order, and the word for the report stands before the id. So every trail is read in
full and field by field, except where the id is this word.
-/

namespace SalesDesk

open Quota

namespace Http

/-! ## Looking up a path -/

/-- The first of the routes with a method that fits a path is taken. -/
theorem find_of_findSome? {method : String} {segments : List String} {e : Endpoint}
    (h : (Route.all.filter fun r => r.method = method).findSome? (fun r => r.at? segments) =
      some e) : Endpoint.find method segments = .ok e := by
  have hall (routes : List Route) :
      ((routes.filterMap fun r => (r.at? segments).map fun e => (r.method, e)).find?
        fun m => m.1 = method) =
      ((routes.filter fun r => r.method = method).findSome? fun r => r.at? segments).map
        fun e => (method, e) := by
    induction routes with
    | nil => rfl
    | cons r rest ih =>
      by_cases hmethod : r.method = method
      · cases hat : r.at? segments with
        | none => simp [hat, hmethod, ih]
        | some e => simp [hat, hmethod]
      · cases hat : r.at? segments with
        | none => simp [hat, hmethod, ih]
        | some e => simp [hat, hmethod, ih]
  rw [Endpoint.find, hall, h]
  rfl

/-- What there is to be read, in the order in which it is looked up. -/
theorem routes_get : Route.all.filter (fun r => r.method = "GET") =
    [⟨"GET", [.word "api", .word "v1", .word "quota", .word "status"], fun _ => .quotaStatus⟩,
     ⟨"GET", [.word "api", .word "v1", .word "products"], fun _ => .products⟩,
     ⟨"GET", [.word "api", .word "v1", .word "products", .parameter],
      fun ps => .product (ps.headD "")⟩,
     ⟨"GET", [.word "api", .word "v1", .word "audit", .word "report"], fun _ => .report⟩,
     ⟨"GET", [.word "api", .word "v1", .word "audit", .parameter],
      fun ps => .trail (ps.headD "")⟩,
     ⟨"GET", [.word "health"], fun _ => .health⟩] :=
  rfl

/-- An id is the path of its trail, unless it is the word for the report. -/
theorem find_trail {id : String} (hempty : id ≠ "") (hreport : id ≠ "report")
    (hline : id ≠ "report\n") :
    Endpoint.find "GET" ["api", "v1", "audit", id] = .ok (.trail id) := by
  apply find_of_findSome?
  rw [routes_get]
  simp [Route.at?, Part.capture?, hempty, hreport, hline]

theorem reads_of_find {r : Request} {id : String} (hverb : r.verb = "GET")
    (hfind : Endpoint.find "GET" (Target.read r.target).segments = .ok (.trail id)) :
    r.Reads id := by
  refine ⟨.trail id, ?_, rfl⟩
  rw [← hverb] at hfind
  exact ofRequest_of_find rfl hfind

/-- The path of a trail, in which the id is escaped. -/
theorem read_trail {id : String} {written : List Char} (hslash : '/' ∉ id.toList)
    (hwritten : Url.Escapes id.toList written) :
    Target.read ("/api/v1/audit/" ++ String.ofList written) =
      { segments := ["api", "v1", "audit", id], query := [] } := by
  let words := ["api".toList, "v1".toList, "audit".toList]
  have hpath : Url.join (words ++ [written]) = "/api/v1/audit/".toList ++ written := by
    simp [words, Url.join]
  have hplain : ∀ w ∈ words, ∀ c ∈ w, Url.IsPlain c := by
    simp [words, Url.IsPlain]
  have hread := Target.read_join hplain hslash hwritten
  rw [hpath, String.ofList_append, String.ofList_toList] at hread
  have hsegments : (words ++ [id.toList]).map String.ofList = ["api", "v1", "audit", id] := by
    simp [words]
  rw [hread, hsegments]
  rfl

end Http

/-! ## Keeping what was written -/

namespace Audit.Store

variable {r : Record} {s kept : Store} {added : List Record}

theorem prefix_append (h : s.append r = .ok kept) : s.records <+: kept.records := by
  obtain ⟨new, hrecords, -⟩ := records_of_append h
  exact ⟨[new], hrecords.symm⟩

theorem prefix_of_appendAll (h : s.appendAll added = .ok kept) : s.records <+: kept.records := by
  induction added generalizing s with
  | nil =>
    cases h
    exact List.prefix_refl _
  | cons r rest ih =>
    obtain ⟨next, happend, hrest⟩ := appendAll_cons_ok h
    exact (prefix_append happend).trans (ih hrest)

end Audit.Store

namespace Desk

variable {d : Desk} {t : Timestamp} {turn : Turn} {turns : List Turn}

theorem prefix_step (hclock : d.clock.toUtc = .ok t) (turn : Turn) :
    d.records <+: (d.step turn).records := by
  have hsame (h : (d.step turn).archive.audit = d.archive.audit) :
      d.records <+: (d.step turn).records := by
    simp only [records, h, List.prefix_refl]
  cases turn with
  | request r =>
    obtain ⟨added, -, -, hadded⟩ := (Http.leaves_serve d r).records
    exact Audit.Store.prefix_of_appendAll hadded
  | _ => exact hsame (audit_step hclock rfl)

theorem prefix_through (hd : d.WellFormed) (turns : List Turn) :
    d.records <+: (d.through turns).records := by
  induction turns generalizing d with
  | nil => exact List.prefix_refl _
  | cons turn rest ih =>
    obtain ⟨t, hclock⟩ := hd.clock
    exact (prefix_step hclock turn).trans (ih (wellFormed_step hd turn))

/-! ## Reading -/

/-- Counters in an answer. -/
structure Counts (json : Json) (s : Snapshot) : Prop where
  messagesToday : json.get? "messages_today" = some (.int s.messagesToday)
  messagesThisWeek : json.get? "messages_this_week" = some (.int s.messagesThisWeek)
  imagesToday : json.get? "images_today" = some (.int s.imagesToday)
  videosThisWeek : json.get? "videos_this_week" = some (.int s.videosThisWeek)

/-- An item of an answer holds all that a record holds. Its time is a text from which the time is read
back, as long as it is a time of universal time within the calendar. -/
structure Holds (item : Json) (r : Audit.Record) : Prop where
  id : item.get? "id" = some (.str r.id)
  time : ∃ text, item.get? "timestamp" = some (.str text) ∧ (r.time.offset = some 0 →
    0 ≤ r.time.wall → r.time.wall < Timestamp.wallEnd → Timestamp.read? text = some r.time)
  conversation : item.get? "conversation_id" = some (r.conversation.elim .null .str)
  message : item.get? "incoming_message" = some (r.message.elim .null .str)
  state : item.get? "state" = some (r.state.elim .null .str)
  action : item.get? "chosen_action" = some (r.action.elim .null .str)
  details : item.get? "action_details" = some ((r.details.bind Words.text?).elim .null .str)
  prompt : item.get? "ai_prompt" = some (r.prompt.elim .null .str)
  response : item.get? "ai_response" = some ((r.response.bind Words.text?).elim .null .str)
  sent : item.get? "sent_message" = some ((r.sent.bind Words.text?).elim .null .str)
  before : ∃ counters, item.get? "quotas_before" = some counters ∧ Counts counters r.before
  after : ∃ counters, item.get? "quotas_after" = some counters ∧ Counts counters r.after

theorem counts_toJson (s : Snapshot) : Counts s.toJson s := ⟨rfl, rfl, rfl, rfl⟩

theorem ofOption_str (text : Option String) : Json.ofOption .str text = text.elim .null .str := by
  cases text <;> rfl

theorem ofOption_words {words : Option Words} (h : ∀ w ∈ words, w.text?.isSome = true) :
    Json.ofOption Words.toJson words = (words.bind Words.text?).elim .null .str := by
  cases words with
  | none => rfl
  | some w =>
    cases w with
    | text text => rfl
    | list items => cases h _ rfl
    | object members => cases h _ rfl

/-- A record whose words are texts is answered with all that it holds. -/
theorem holds_toJson {r : Audit.Record} (h : r.toEntry.Textual) :
    Holds (r.toJson Timestamp.isoZulu) r where
  id := rfl
  time := ⟨_, rfl, Timestamp.read?_isoZulu⟩
  conversation := congrArg some (ofOption_str r.conversation)
  message := congrArg some (ofOption_str r.message)
  state := congrArg some (ofOption_str r.state)
  action := congrArg some (ofOption_str r.action)
  details := congrArg some (ofOption_words h.details)
  prompt := congrArg some (ofOption_str r.prompt)
  response := congrArg some (ofOption_words h.response)
  sent := congrArg some (ofOption_words h.sent)
  before := ⟨_, rfl, counts_toJson r.before⟩
  after := ⟨_, rfl, counts_toJson r.after⟩

/-- What is answered to whoever asks for the trail of a conversation: all records of it with all that
they hold, over a table in the order of time and out of the memory in the order in which they came. -/
structure Trails (d : Desk) (id : String) (items : List Json) : Prop where
  all : ∃ records : List Audit.Record, List.Forall₂ Holds items records ∧
    records.Perm (d.records.filter fun record => record.conversation = some id) ∧
    (∀ rows, d.archive.audit = .table rows →
      records.Pairwise fun a b => a.time.instant ≤ b.time.instant) ∧
    ∀ kept, d.archive.audit = .memory kept →
      records = kept.filter fun record => record.conversation = some id

/-- The words of all that is kept of a conversation are texts. -/
def Textual (d : Desk) (id : String) : Prop :=
  ∀ record ∈ d.records, record.conversation = some id → record.toEntry.Textual

/-- A table keeps nothing but texts. -/
theorem textual_of_table {rows : List Audit.Row} (haudit : d.archive.audit = .table rows)
    (id : String) : d.Textual id := by
  intro record hrecord _
  rw [records, haudit] at hrecord
  obtain ⟨row, -, rfl⟩ := List.mem_map.mp hrecord
  exact row.textual_record

theorem reply_trails {r : Http.Request} {id : String} (hcomplete : d.Complete)
    (htextual : d.Textual id) (hreads : r.Reads id) :
    ∃ items, d.reply? (.request r) = some (.ok (.body 200 (.arr items))) ∧ d.Trails id items := by
  have hperm := d.archive.audit.ofConversation_perm (some id)
  refine ⟨_, (reply_trail hreads).mpr ⟨fun record hrecord hid => ?_, rfl⟩, ⟨_, ?_, hperm, ?_, ?_⟩⟩
  · exact Audit.Record.refusal?_eq_none_iff.mpr ⟨hcomplete record hrecord, htextual record hrecord hid⟩
  · rw [List.forall₂_map_left_iff, List.forall₂_same]
    intro record hrecord
    obtain ⟨hkept, hid⟩ := List.mem_filter.mp (hperm.mem_iff.mp hrecord)
    exact holds_toJson (htextual record hkept (of_decide_eq_true hid))
  · intro rows haudit
    rw [haudit]
    exact Audit.Store.pairwise_ofConversation_table rows (some id)
  · intro kept haudit
    rw [haudit]
    rfl

theorem complete_launched (settings : Settings) (given : Option Generation.Generator) (w : World)
    {archive : Archive} (h : ∀ record ∈ archive.audit.records, record.toEntry.Complete) :
    (launched settings given archive w).Complete := by
  obtain ⟨t, hclock⟩ := w.readable
  have hstart := audit_of_parallel (d := (Desk.new settings given archive w.clock).inWorld w)
    (fun _ => respects_start) hclock
  exact complete_of_audit hstart h

end Desk

end SalesDesk
